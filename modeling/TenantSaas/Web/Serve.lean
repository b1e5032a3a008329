import TenantSaas.Routes.Admin
import TenantSaas.Routes.AuthPages
import TenantSaas.Routes.Billing
import TenantSaas.Routes.Password
import TenantSaas.Routes.Users
import TenantSaas.Services.UsageService
import TenantSaas.Web.Decorators

/-!
# Serving a guarded request

The guarded routes of the application: the guard, the view, the error handler and the
`after_request` hook that meters the request.
-/

namespace TenantSaas

/-- The routes under `login_required` and `admin_required`. -/
inductive Route where
  | userDashboard
  | userDetailsPage
  | userDetailsUpdate
  | passwordResetPage
  | passwordResetUpdate
  | resetPage
  | resetSubmit
  | billingDashboard
  | billingUsage
  | billingInvoices
  | adminDashboard
  | manageUsersPage
  | createUser
  | deleteUser (userId : String)
  | toggleUser (userId : String)

namespace Route

/-- The routes of `routes/admin.py` are `@admin_required`. -/
def isAdmin : Route → Bool
  | adminDashboard | manageUsersPage | createUser | deleteUser _ | toggleUser _ => true
  | _ => false

def guard (config : Config) (request : Request) (route : Route) : App Gate :=
  if route.isAdmin then adminRequired config request else loginRequired config request

def view (config : Config) (lower : String → String) (request : Request) (identity : Identity) :
    Route → App Response
  | userDashboard => Users.dashboard config request identity
  | userDetailsPage => Users.userDetailsPage config identity
  | userDetailsUpdate => Users.userDetailsUpdate config request identity
  | passwordResetPage => Users.passwordResetPage identity
  | passwordResetUpdate => Users.passwordResetUpdate config request identity
  | resetPage => Password.resetPage
  | resetSubmit => Password.resetSubmit config request
  | billingDashboard => Billing.dashboard config request identity
  | billingUsage => Billing.usage config request identity
  | billingInvoices => Billing.invoices config identity
  | adminDashboard => Admin.dashboard config lower request identity
  | manageUsersPage => Admin.manageUsersPage config lower request identity
  | createUser => Admin.createUser config request identity
  | deleteUser userId => Admin.deleteUser config request identity userId
  | toggleUser userId => Admin.toggleUser config request identity userId

end Route

/-- An exception that leaves the view becomes the error page (`app.py:269-272`). -/
def handleErrors (view : App Response) : App Response := tryCatch view fun _ => pure serverError

/-- `meter_usage` (`app.py:333-342`), for the `g.identity` the guard has set. -/
def meterUsage (config : Config) (request : Request) (identity : Option Identity)
    (response : Response) : App Unit :=
  recordApiUsage config identity request.method request.path response.status 1

/-- The view behind a guard that lets the request in, and the hook after it. -/
def serveAs (config : Config) (lower : String → String) (request : Request) (route : Route)
    (identity : Identity) : App Response := do
  let response ← handleErrors (route.view config lower request identity)
  meterUsage config request (some identity) response
  pure response

/-- One request to a guarded route. -/
def serve (config : Config) (lower : String → String) (request : Request) (route : Route) :
    App Response := do
  let gate ← tryCatch (route.guard config request) fun _ => pure (.deny serverError)
  match gate with
  | .deny response => do
    meterUsage config request none response
    pure response
  | .enter identity => serveAs config lower request route identity

/-- The calls of the metering. -/
def AppOp.meters : AppOp → Bool
  | .uuid4 | .utcnow | .recordDemoEvent _ | .sendMessage _ _ => true
  | _ => false

/-- What the metering does not touch is left as the view left it. -/
theorem serveAs_frame {σ β : Type}
    (exec : σ → (op : AppOp) → Except PyError op.Res × σ) {f : σ → β}
    (hf : ∀ op s, op.meters = true → f (exec s op).2 = f s) (config : Config)
    (lower : String → String) (request : Request) (route : Route) (identity : Identity) (s : σ) :
    f (Prog.run exec (serveAs config lower request route identity) s).2 =
      f (Prog.run exec (route.view config lower request identity) s).2 := by
  calc f (Prog.run exec (serveAs config lower request route identity) s).2
    _ = f (Prog.run exec (handleErrors (route.view config lower request identity)) s).2 := by
      refine Prog.run_bind_frame exec hf (fun response => ?_) s
      exact Prog.Calls.bind (recordApiUsage_calls config identity _ _ _ _ (by rfl) (by rfl)
        fun _ _ => ⟨by rfl, by rfl⟩) fun _ => trivial
    _ = f (Prog.run exec (route.view config lower request identity) s).2 :=
      Prog.run_handle_frame exec hf (fun _ => by trivial) s

section Returns

variable {σ : Type} (exec : σ → (op : AppOp) → Except PyError op.Res × σ) (config : Config)
  (lower : String → String) (request : Request) (route : Route) (identity : Identity) (s : σ)

/-- The metering raises nothing. -/
theorem meterUsage_returns (response : Response) :
    ∃ t, Prog.run exec (meterUsage config request (some identity) response) s = (.ok (), t) := by
  unfold meterUsage recordApiUsage
  split
  · exact ⟨s, rfl⟩
  dsimp only
  split
  · exact ⟨s, rfl⟩
  rw [Prog.tryCatch_def, Prog.run_handle]
  split
  · exact ⟨_, rfl⟩
  · exact ⟨_, rfl⟩

/-- The response is the view's, or the error page where the view raises. -/
theorem run_serveAs : ∃ t,
    Prog.run exec (serveAs config lower request route identity) s =
      (.ok (match (Prog.run exec (route.view config lower request identity) s).1 with
        | .ok response => response
        | .error _ => serverError), t) := by
  obtain ⟨u, hhandled⟩ : ∃ u,
    Prog.run exec (handleErrors (route.view config lower request identity))
      s = (.ok (match (Prog.run exec (route.view config lower request identity) s).1 with
        | .ok response => response
        | .error _ => serverError), u) := by
    unfold handleErrors
    rw [Prog.tryCatch_def, Prog.run_handle]
    rcases Prog.run exec (route.view config lower request identity) s with ⟨e | response, u⟩
    · exact ⟨u, rfl⟩
    · exact ⟨u, rfl⟩
  generalize (match (Prog.run exec (route.view config lower request identity) s).1 with
    | .ok response => response
    | .error _ => serverError) = response at hhandled ⊢
  obtain ⟨t, hmetered⟩ := meterUsage_returns exec config request identity u response
  unfold serveAs
  rw [Prog.bind_def, Prog.run_bind, hhandled]
  simp only
  rw [Prog.bind_def, Prog.run_bind, hmetered]
  exact ⟨t, rfl⟩

end Returns

end TenantSaas
