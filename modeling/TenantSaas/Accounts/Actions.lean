import TenantSaas.App.Frames
import TenantSaas.Web.Serve

/-!
# Actions on accounts

The three admin routes that write, and what of the state each of their calls leaves alone.
-/

namespace TenantSaas

/-- The routes that act on accounts. -/
inductive AccountAction where
  | create
  | delete (userId : String)
  | toggle (userId : String)

def AccountAction.route : AccountAction → Route
  | create => .createUser
  | delete userId => .deleteUser userId
  | toggle userId => .toggleUser userId

/-- The user id a new user gets, and the tick after it was drawn. -/
def newUserDraw (world : World) (request : Request) (tick : Nat) : String × Nat :=
  if PyStr.strip (request.field "user_id") = "" then (PyStr.take (world.uuid tick) 8, tick + 1)
  else (PyStr.strip (request.field "user_id"), tick)

theorem newUserDraw_ne (world : World) (request : Request) (tick : Nat) :
    (newUserDraw world request tick).1 ≠ "" := by
  unfold newUserDraw
  by_cases hgiven : PyStr.strip (request.field "user_id") = ""
  · rw [if_pos hgiven]
    intro hempty
    have hchars := congrArg String.toList hempty
    rw [PyStr.take, String.toList_ofList, String.toList_empty, List.take_eq_nil_iff] at hchars
    rcases hchars with hzero | hnil
    · cases hzero
    · exact world.uuid_ne tick (String.toList_eq_nil_iff.mp hnil)
  · rw [if_neg hgiven]
    exact hgiven

section Frame

variable {world : World}

/-- The error handler and the metering leave the accounts as the view left them. -/
theorem serveAs_accounts (config : Config) (lower : String → String) (request : Request)
    (route : Route) (identity : Identity) (s : AppState) :
    accounts (world.run (serveAs config lower request route identity) s).2 =
      accounts (world.run (route.view config lower request identity) s).2 := by
  apply serveAs_frame
  intro op s hop
  apply exec_accounts
  cases op <;> first | rfl | cases hop

/-- The statements on the tenant tables are no account calls. -/
theorem onTenant_keeps {α : Type} {tenant : String} {p : App α}
    (hp : p.Calls (AppOp.OnTenant tenant)) : p.Calls fun op => op.changesAccounts = false := by
  apply hp.mono
  intro op hop
  cases op <;> first | rfl | cases hop

end Frame

/-! ## What each action does to the accounts -/

section Actions

variable {world : World} {config : Config} {request : Request} {identity : Identity}
  {s : AppState}

theorem run_bind_accounts {α β : Type} {p : App α} {f : α → App β}
    (hf : ∀ a, (f a).Calls fun op => op.changesAccounts = false) (s : AppState) :
    accounts (world.run (p >>= f) s).2 = accounts (world.run p s).2 :=
  Prog.run_bind_frame world.exec (fun _ s hop => exec_accounts hop s) hf s

theorem run_tryCatch_accounts {α : Type} {p : App α} {handler : PyError → App α}
    (h : ∀ e, (handler e).Calls fun op => op.changesAccounts = false) (s : AppState) :
    accounts (world.run (tryCatch p handler) s).2 = accounts (world.run p s).2 :=
  Prog.run_handle_frame world.exec (fun _ s hop => exec_accounts hop s) h s

theorem flash_keeps (message category : String) :
    (flash message category).Calls fun op => op.changesAccounts = false :=
  flash_calls (by rfl) (fun _ => by rfl) message category

theorem deleteUser_accounts (userId : String) :
    accounts (world.run (Admin.deleteUser config request identity userId) s).2 =
      accounts (world.run (deleteCognitoUser config (Admin.formUsername request userId)) s).2 := by
  refine (run_bind_accounts (fun _ => by trivial) s).trans ?_
  refine (run_tryCatch_accounts (fun _ => flash_keeps _ _) s).trans ?_
  refine run_bind_accounts (fun _ => ?_) s
  exact Prog.Calls.bind (onTenant_keeps (deleteUserRecord_calls userId _)) fun _ => flash_keeps _ _

theorem toggleUser_accounts (userId : String) :
    accounts (world.run (Admin.toggleUser config request identity userId) s).2 =
      accounts (world.run (cognitoSetEnabled config (Admin.formUsername request userId)
        (Admin.isTrue request "enable")) s).2 := by
  refine (run_bind_accounts (fun _ => by trivial) s).trans ?_
  refine (run_tryCatch_accounts (fun _ => flash_keeps _ _) s).trans ?_
  refine run_bind_accounts (fun _ => ?_) s
  exact Prog.Calls.bind (onTenant_keeps (setUserEnabled_calls userId _)) fun _ => flash_keeps _ _

/-- The draw of a user id comes before anything else. -/
theorem run_newUserId (request : Request) (s : AppState) :
    world.run (Admin.newUserId request) s =
      (.ok (newUserDraw world request s.tick).1,
        { s with tick := (newUserDraw world request s.tick).2 }) := by
  unfold Admin.newUserId newUserDraw
  by_cases hgiven : PyStr.strip (request.field "user_id") = ""
  · simp only [hgiven, if_true]
    rfl
  · simp only [hgiven, if_false]
    rfl

theorem createUser_accounts : ∃ tick,
    accounts (world.run (Admin.createUser config request identity) s).2 =
      accounts (if (Admin.NewUser.read request).errors = [] then
        (world.run (createCognitoUser config (Admin.NewUser.read request).username
          (Admin.NewUser.read request).email identity.tenant (Admin.NewUser.read request).role)
          { s with tick := tick }).2
      else s) := by
  refine ⟨(newUserDraw world request s.tick).2, ?_⟩
  unfold Admin.createUser
  rw [World.run_bind_ok (run_newUserId request s)]
  generalize newUserDraw world request s.tick = draw
  by_cases herrors : (Admin.NewUser.read request).errors = []
  · simp only [herrors, ne_eq, not_true_eq_false, if_false, if_true]
    refine (run_tryCatch_accounts (fun _ => ?_) _).trans ?_
    · exact Prog.Calls.bind (flash_keeps _ _) fun _ => trivial
    refine run_bind_accounts (fun created => ?_) _
    refine Prog.Calls.bind (onTenant_keeps (createUserRecord_calls _ _ _ _)) fun _ => ?_
    exact Prog.Calls.bind (perform_calls (by rfl)) fun _ =>
      render_calls (by rfl) (fun _ => by rfl) _
  · simp only [herrors, ne_eq, not_false_eq_true, if_true, if_false]
    refine (run_bind_accounts (fun _ => by trivial) _).trans ?_
    exact Prog.run_frame world.exec (fun _ s hop => exec_accounts hop s)
      (flashErrors_calls (by rfl) (fun _ => by rfl) _) _

end Actions

end TenantSaas
