import TenantSaas.Accounts.AllOrNothing
import TenantSaas.Profile.Rows
import TenantSaas.Web.SessionExpiry
import TenantSaas.Web.SessionKeys

/-!
# Two ways to change a password

`reset_submit` and `password_reset_update` are two views for one operation, entered with the
same identity.
-/

namespace TenantSaas

/-- The world on a given day, with a given answer of Cognito to a change of password. -/
def World.answering (world : World) (refusal : Option PyError) (today : String) : World :=
  { world with
    fault := fun tick op =>
      match op with
      | .changePassword _ _ _ => refusal
      | op => world.fault tick op
    today := fun _ => today }

/-- The row of the user has `first_login` cleared and `password_last_changed` set to today. -/
def MarkedChanged (config : Config) (world : World) (tenant userId today : String)
    (s : AppState) : Prop :=
  ∀ row, storedRow config world tenant userId s = some row →
    row.firstLogin = false ∧ row.passwordLastChanged = some today

/-- The calls that `change_password` made of Cognito on behalf of a view. -/
def ChangeCall (world : World) (view : App Response) (s : AppState)
    (accessToken : Json) (previous proposed : String) (answer : Except PyError Unit) : Prop :=
  ⟨.changePassword accessToken previous proposed, answer⟩ ∈ Prog.trace world.exec view s

/-- The view sends the user on, not back to a form. -/
def Response.completes : Response → Bool
  | redirect .userDetailsPage | redirect .userDashboard | redirect .adminDashboard => true
  | _ => false

/-- Cognito changed the password on behalf of the view or, in DEMO_MODE, the view took it for
changed. -/
def Changed (config : Config) (world : World) (view : App Response) (s : AppState) : Prop :=
  if config.demoMode then
    ∃ response t, world.run view s = (.ok response, t) ∧ response.completes = true
  else
    ∃ accessToken previous proposed, ChangeCall world view s accessToken previous proposed (.ok ())

/-- `first_login` of the identity in the session. -/
def Session.firstLogin (session : Session) : Option Bool :=
  session.identity.bind Identity.firstLogin

section Definitions

variable (config : Config) (world : World) (request : Request) (identity : Identity)
  (today : String) (s : AppState)

/-- What the two views do alike for an identity that has entered. -/
structure Interchangeable : Prop where
  calls : ∀ accessToken previous proposed,
    (∃ answer, ChangeCall world (Password.resetSubmit config request) s
      accessToken previous proposed answer) ↔
    ∃ answer, ChangeCall world (Users.passwordResetUpdate config request identity) s
      accessToken previous proposed answer
  returns : (∃ response t, world.run (Password.resetSubmit config request) s = (.ok response, t)) ∧
    ∃ response t,
      world.run (Users.passwordResetUpdate config request identity) s = (.ok response, t)
  /-- After a change the row is marked and the sessions agree. -/
  marks : ∀ userId, Users.resolveUserId identity = .ok userId →
    (Changed config world (Password.resetSubmit config request) s →
      MarkedChanged config world identity.tenant userId today
        (world.run (Password.resetSubmit config request) s).2) ∧
    (Changed config world (Users.passwordResetUpdate config request identity) s →
      MarkedChanged config world identity.tenant userId today
        (world.run (Users.passwordResetUpdate config request identity) s).2)
  firstLogin : Changed config world (Password.resetSubmit config request) s →
    Changed config world (Users.passwordResetUpdate config request identity) s →
      (world.run (Password.resetSubmit config request) s).2.session.firstLogin =
        (world.run (Users.passwordResetUpdate config request identity) s).2.session.firstLogin

/-- The identity is that of a session and has a user id, and the new password is not confirmed,
or the form meets the rules of both views and either Cognito refuses or there is nothing left to
mark. -/
def ChangesAlike (refusal : Option PyError) : Prop :=
  s.session.identity = some identity ∧ ∃ userId, Users.resolveUserId identity = .ok userId ∧
    if config.demoMode then
      Password.submitErrors request ≠ [] ∨
        MarkedChanged config world identity.tenant userId today s ∧
          identity.firstLogin = some false
    else
      request.field "new_password" ≠ request.field "confirm_password" ∨
        Password.submitErrors request = [] ∧ s.session.accessToken.truthy = true ∧
          (refusal ≠ none ∨
            MarkedChanged config world identity.tenant userId today s ∧
              identity.firstLogin = some false)

end Definitions

/-! ## The calls to Cognito -/

section Calls

variable {config : Config} {world : World} {s : AppState} {refusal : Option PyError}
  {today : String}

def AppOp.changesPassword : AppOp → Bool
  | .changePassword _ _ _ => true
  | _ => false

/-- What Cognito answers. -/
def changeAnswer : Option PyError → Except PyError Unit
  | some e => .error e
  | none => .ok ()

theorem exec_changePassword (accessToken : Json) (previous proposed : String) (s : AppState) :
    (world.answering refusal today).exec s (.changePassword accessToken previous proposed) =
      (changeAnswer refusal, { s with tick := s.tick + 1 }) := by
  cases refusal <;> rfl

theorem not_changeCall {view : App Response}
    (h : view.Calls fun op => op.changesPassword = false) {accessToken : Json}
    {previous proposed : String} {answer : Except PyError Unit} :
    ¬ ChangeCall world view s accessToken previous proposed answer := by
  intro hcall
  have hop := Prog.of_mem_trace _ h hcall
  cases hop

/-- A view that first asks Cognito, and then does not again. -/
theorem changeCall_iff {accessToken token : Json} {previous proposed old new : String}
    {answer : Except PyError Unit} {f : Unit → App Response} {handler : PyError → App Response}
    (real : config.demoMode = false)
    (hf : (f ()).Calls fun op => op.changesPassword = false)
    (hhandler : ∀ e, (handler e).Calls fun op => op.changesPassword = false) :
    ChangeCall (world.answering refusal today)
        (tryCatch (changePassword config token old new >>= f) handler) s
        accessToken previous proposed answer ↔
      accessToken = token ∧ previous = old ∧ proposed = new ∧ answer = changeAnswer refusal := by
  obtain ⟨next, hview, hnext⟩ : ∃ next,
      tryCatch (changePassword config token old new >>= f) handler =
        Prog.call (.changePassword token old new) next ∧
      ∀ r, (next r).Calls fun op => op.changesPassword = false := by
    unfold changePassword
    rw [real]
    refine ⟨_, rfl, fun r => ?_⟩
    cases r with
    | ok u => exact Prog.Calls.handle hf hhandler
    | error e => exact hhandler e
  rw [hview, ChangeCall, Prog.trace, exec_changePassword, List.mem_cons]
  constructor
  · intro h
    rcases h with hfirst | hlater
    · cases hfirst
      exact ⟨rfl, rfl, rfl, rfl⟩
    · exact absurd hlater (not_changeCall (hnext _))
  · intro h
    obtain ⟨rfl, rfl, rfl, rfl⟩ := h
    exact .inl rfl

/-- Reading the session first. -/
theorem changeCall_session {f : Session → App Response} {accessToken : Json}
    {previous proposed : String} {answer : Except PyError Unit} :
    ChangeCall world (perform .session >>= f) s accessToken previous proposed answer ↔
      ChangeCall world (f s.session) { s with tick := s.tick + 1 }
        accessToken previous proposed answer := by
  unfold ChangeCall
  rw [World.trace_session_bind, List.mem_cons]
  constructor
  · intro h
    rcases h with hfirst | hrest
    · cases hfirst
    · exact hrest
  · exact .inr

end Calls

/-! ## The calls of the two views -/

section ViewCalls

variable {P : AppOp → Prop} {config : Config} {request : Request} (hread : P .session)
  (hwrite : ∀ s, P (.setSession s))

include hread hwrite

theorem resetSubmit_calls
    (hchange : ∀ token old new, (changePassword config token old new).Calls P) :
    (Password.resetSubmit config request).Calls P := by
  refine Prog.Calls.bind (perform_calls hread) fun session => ?_
  cases session.identity with
  | none => trivial
  | some identity =>
    show Prog.Calls _ (if _ then _ else _)
    split
    · exact Prog.Calls.bind (flashErrors_calls hread hwrite _) fun _ =>
        render_calls hread hwrite _
    split
    · exact Prog.Calls.bind (flash_calls hread hwrite _ _) fun _ => trivial
    refine Prog.Calls.handle (Prog.Calls.bind (hchange _ _ _) fun _ => ?_) fun e => ?_
    · refine Prog.Calls.bind (perform_calls hread) fun session => ?_
      refine Prog.Calls.bind (perform_calls (hwrite _)) fun _ => ?_
      refine Prog.Calls.bind (flash_calls hread hwrite _ _) fun _ => ?_
      split
      · trivial
      split <;> trivial
    · exact Prog.Calls.bind (flash_calls hread hwrite _ _) fun _ => render_calls hread hwrite _

theorem passwordResetUpdate_calls {identity : Identity}
    (hchange : ∀ token old new, (changePassword config token old new).Calls P)
    (hmark : ∀ userId, (markPasswordChanged config identity.tenant userId).Calls P) :
    (Users.passwordResetUpdate config request identity).Calls P := by
  refine Prog.Calls.bind (Prog.Calls.bind (perform_calls hread) fun _ => trivial) fun current => ?_
  cases Users.resolveUserId current with
  | error e => exact Prog.Calls.bind (flash_calls hread hwrite _ _) fun _ => trivial
  | ok userId =>
    show Prog.Calls _ (if _ then _ else _)
    split
    · exact Prog.Calls.bind (flash_calls hread hwrite _ _) fun _ => trivial
    refine Prog.Calls.bind (perform_calls hread) fun session => ?_
    refine Prog.Calls.handle (Prog.Calls.bind (hchange _ _ _) fun _ => ?_) fun e => ?_
    · refine Prog.Calls.bind (hmark userId) fun _ => ?_
      exact Prog.Calls.bind (flash_calls hread hwrite _ _) fun _ => trivial
    · cases e <;> exact Prog.Calls.bind (flash_calls hread hwrite _ _) fun _ => trivial

end ViewCalls

/-! ## `reset_submit` -/

section ResetSubmit

variable {config : Config} {world : World} {request : Request} {identity : Identity}
  {s : AppState} {refusal : Option PyError} {today : String}

theorem run_submitPassword (w : World) (token : Json) (s : AppState)
    (h : w.run (changePassword config token (request.field "current_password")
      (request.field "new_password")) s = (.ok (), s')) :
    ∃ response t, w.run (Password.submitPassword config request identity token) s =
      (.ok response, t) ∧ response.completes = true ∧ t.session.firstLogin = some false := by
  unfold Password.submitPassword
  rw [World.run_bind_ok h]
  split
  · exact ⟨_, _, rfl, rfl, rfl⟩
  split <;> exact ⟨_, _, rfl, rfl, rfl⟩

theorem resetSubmit_returns (hidentity : s.session.identity = some identity) :
    ∃ response t, world.run (Password.resetSubmit config request) s = (.ok response, t) := by
  unfold Password.resetSubmit
  rw [World.run_session_bind, hidentity]
  simp only
  split
  · obtain ⟨flashes, tick, hflashed⟩ := @run_flashErrors world (Password.submitErrors request)
      { s with tick := s.tick + 1 }
    rw [World.run_bind_ok hflashed]
    exact ⟨_, _, rfl⟩
  split
  · exact ⟨_, _, rfl⟩
  rcases hrun : world.run (Password.submitPassword config request identity s.session.accessToken)
    { s with tick := s.tick + 1 } with ⟨e | response, t⟩
  · rw [World.run_tryCatch_error hrun]
    exact ⟨_, _, rfl⟩
  · rw [World.run_tryCatch_ok hrun]
    exact ⟨_, _, rfl⟩

/-- It asks Cognito if the form meets the rules and the session has a token. -/
theorem resetSubmit_changeCall (real : config.demoMode = false)
    (hidentity : s.session.identity = some identity) {accessToken : Json}
    {previous proposed : String} {answer : Except PyError Unit} :
    ChangeCall (world.answering refusal today) (Password.resetSubmit config request) s
        accessToken previous proposed answer ↔
      (Password.submitErrors request = [] ∧ s.session.accessToken.truthy = true) ∧
        accessToken = s.session.accessToken ∧ previous = request.field "current_password" ∧
        proposed = request.field "new_password" ∧ answer = changeAnswer refusal := by
  unfold Password.resetSubmit
  rw [changeCall_session, hidentity]
  simp only
  by_cases herrors : Password.submitErrors request = []
  swap
  · rw [if_pos herrors]
    refine iff_of_false (not_changeCall ?_) fun h => herrors h.1.1
    exact Prog.Calls.bind (flashErrors_calls (by rfl) (fun _ => by rfl) _) fun _ =>
      render_calls (by rfl) (fun _ => by rfl) _
  rw [if_neg (by simpa using herrors)]
  by_cases htoken : s.session.accessToken.truthy = true
  swap
  · rw [if_pos (by simp [htoken, real])]
    refine iff_of_false (not_changeCall ?_) fun h => htoken h.1.2
    exact Prog.Calls.bind (flash_calls (by rfl) (fun _ => by rfl) _ _) fun _ => trivial
  rw [if_neg (by simp [htoken])]
  refine (changeCall_iff real ?_ ?_).trans ?_
  · refine Prog.Calls.bind (perform_calls (by rfl)) fun session => ?_
    refine Prog.Calls.bind (perform_calls (by rfl)) fun _ => ?_
    refine Prog.Calls.bind (flash_calls (by rfl) (fun _ => by rfl) _ _) fun _ => ?_
    split
    · trivial
    split <;> trivial
  · exact fun _ => Prog.Calls.bind (flash_calls (by rfl) (fun _ => by rfl) _ _) fun _ =>
      render_calls (by rfl) (fun _ => by rfl) _
  · simp [herrors, htoken]

theorem resetSubmit_firstLogin (real : config.demoMode = false)
    (hidentity : s.session.identity = some identity)
    (herrors : Password.submitErrors request = []) (htoken : s.session.accessToken.truthy = true) :
    ((world.answering none today).run
        (Password.resetSubmit config request) s).2.session.firstLogin =
      some false := by
  have hchange : (world.answering none today).run (changePassword config s.session.accessToken
      (request.field "current_password") (request.field "new_password"))
      { s with tick := s.tick + 1 } = (.ok (), { s with tick := s.tick + 2 }) := by
    unfold changePassword
    rw [real]
    rfl
  obtain ⟨response, t, hrun, -, hfirst⟩ := @run_submitPassword config request identity _
    (world.answering none today) s.session.accessToken { s with tick := s.tick + 1 } hchange
  unfold Password.resetSubmit
  rw [World.run_session_bind, hidentity]
  simp only
  rw [if_neg (by simpa using herrors), if_neg (by simp [htoken]), World.run_tryCatch_ok hrun]
  exact hfirst

/-- It leaves every row alone. -/
theorem resetSubmit_keepsRows :
    (Password.resetSubmit config request).Calls fun op => op.keepsRows = true := by
  refine resetSubmit_calls (by rfl) (fun _ => by rfl) fun token old new => ?_
  unfold changePassword
  split
  · trivial
  · exact perform_calls (by rfl)

end ResetSubmit

/-! ## `password_reset_update` -/

section PasswordResetUpdate

variable {config : Config} {world : World} {request : Request} {identity : Identity}
  {userId tenant today : String} {s t : AppState} {refusal : Option PyError}

theorem MarkedChanged.congr (hrows : keyedRows config tenant t = keyedRows config tenant s)
    (h : MarkedChanged config world tenant userId today s) :
    MarkedChanged config world tenant userId today t := by
  intro row hrow
  rw [storedRow_congr hrows] at hrow
  exact h row hrow

/-- A row that is marked stays so, whether the marking goes through or not. -/
theorem markPasswordChanged_marked (real : config.demoMode = false)
    (h : MarkedChanged config world tenant userId today s) :
    MarkedChanged config world tenant userId today
      ((world.answering refusal today).run (markPasswordChanged config tenant userId) s).2 := by
  have hrun : (world.answering refusal today).run (markPasswordChanged config tenant userId) s =
      (world.answering refusal today).run
        (writeRecord tenant (.updatePasswordChanged userId today))
        { s with tick := s.tick + 1 } := by
    unfold markPasswordChanged
    rw [real]
    rfl
  rw [hrun]
  rcases hwrite : (world.answering refusal today).run
    (writeRecord tenant (.updatePasswordChanged userId today))
    { s with tick := s.tick + 1 } with ⟨e | _, u⟩
  · apply MarkedChanged.congr ?_ h
    unfold keyedRows
    rw [real, writeRecord_error hwrite]
    rfl
  · obtain ⟨table, count, rows, htable, happly, hrows⟩ := writeRecord_ok hwrite
    intro row hrow
    cases happly
    rw [storedRow_real real htable, hrows, Rds.setTable_self] at hrow
    have hfound := @find?_update userId (world.answering refusal today).mysql
      (fun row => { row with passwordLastChanged := some today, firstLogin := false })
      (fun _ => rfl) (s.rds.committed table)
    obtain ⟨old, -, rfl⟩ := Option.map_eq_some_iff.mp (hfound.symm.trans hrow)
    exact ⟨rfl, rfl⟩

/-- What a step of the view leaves: the identity of the session, and a marked row. -/
structure Keeps (config : Config) (world : World) (tenant userId today : String)
    (s t : AppState) : Prop where
  identity : t.session.identity = s.session.identity
  marked : config.demoMode = false → MarkedChanged config world tenant userId today s →
    MarkedChanged config world tenant userId today t

theorem Keeps.trans {u : AppState} (hst : Keeps config world tenant userId today s t)
    (htu : Keeps config world tenant userId today t u) :
    Keeps config world tenant userId today s u :=
  ⟨htu.identity.trans hst.identity, fun real h => htu.marked real (hst.marked real h)⟩

theorem keeps_of_rows (hidentity : t.session.identity = s.session.identity)
    (hrows : keyedRows config tenant t = keyedRows config tenant s) :
    Keeps config world tenant userId today s t :=
  ⟨hidentity, fun _ h => h.congr hrows⟩

theorem changePassword_keeps (token : Json) (old new : String) (s : AppState) :
    Keeps config world tenant userId today s
      ((world.answering refusal today).run (changePassword config token old new) s).2 := by
  unfold changePassword
  split
  · exact keeps_of_rows rfl rfl
  · rw [World.run_perform, exec_changePassword]
    exact keeps_of_rows rfl rfl

theorem markPasswordChanged_keeps (s : AppState) :
    Keeps config world tenant userId today s
      ((world.answering refusal today).run (markPasswordChanged config tenant userId) s).2 :=
  ⟨congrArg Session.identity
    (run_keepsSession (onTenant_keepsSession (markPasswordChanged_calls userId)) s),
    fun real h => markPasswordChanged_marked real h⟩

/-- A change and its mark return, if what comes after them does. -/
theorem run_changeAndMark {after : App Response} {handler : PyError → App Response}
    (hafter : ∀ u, ∃ response t, (world.answering refusal today).run after u = (.ok response, t) ∧
      Keeps config world tenant userId today u t)
    (hhandler : ∀ e u, ∃ response t,
      (world.answering refusal today).run (handler e) u = (.ok response, t) ∧
        Keeps config world tenant userId today u t) (token : Json) (s : AppState) :
    ∃ response t,
      (world.answering refusal today).run (tryCatch
        (do
          changePassword config token (request.field "current_password")
            (request.field "new_password")
          markPasswordChanged config tenant userId
          after) handler) s = (.ok response, t) ∧
        Keeps config world tenant userId today s t := by
  have hchanged := @changePassword_keeps config world userId tenant today refusal token
    (request.field "current_password") (request.field "new_password") s
  rcases hchange : (world.answering refusal today).run (changePassword config token
    (request.field "current_password") (request.field "new_password")) s with ⟨e | _, u⟩
  · rw [hchange] at hchanged
    obtain ⟨response, t, hrun, hkeeps⟩ := hhandler e u
    rw [World.run_tryCatch_error (World.run_bind_error hchange)]
    exact ⟨response, t, hrun, hchanged.trans hkeeps⟩
  rw [hchange] at hchanged
  have hmarked := @markPasswordChanged_keeps config world userId tenant today refusal u
  rcases hmark : (world.answering refusal today).run (markPasswordChanged config tenant userId) u
    with ⟨e | _, v⟩
  · rw [hmark] at hmarked
    obtain ⟨response, t, hrun, hkeeps⟩ := hhandler e v
    rw [World.run_tryCatch_error ((World.run_bind_ok hchange).trans (World.run_bind_error hmark))]
    exact ⟨response, t, hrun, (hchanged.trans hmarked).trans hkeeps⟩
  · rw [hmark] at hmarked
    obtain ⟨response, t, hrun, hkeeps⟩ := hafter v
    rw [World.run_tryCatch_ok ((World.run_bind_ok hchange).trans
      ((World.run_bind_ok hmark).trans hrun))]
    exact ⟨response, t, rfl, (hchanged.trans hmarked).trans hkeeps⟩

/-- The view returns; it leaves the identity of the session, and a marked row. -/
theorem run_passwordResetUpdate (hidentity : s.session.identity = some identity)
    (hid : Users.resolveUserId identity = .ok userId) : ∃ response t,
    (world.answering refusal today).run (Users.passwordResetUpdate config request identity) s =
        (.ok response, t) ∧
      Keeps config world identity.tenant userId today s t := by
  have hcurrent : (world.answering refusal today).run (Users.getCurrentIdentity identity) s =
      (.ok identity, { s with tick := s.tick + 1 }) := by
    unfold Users.getCurrentIdentity
    rw [World.run_session_bind, hidentity]
    rfl
  unfold Users.passwordResetUpdate
  rw [World.run_bind_ok hcurrent]
  simp only [hid]
  split
  · exact ⟨_, _, rfl, keeps_of_rows rfl rfl⟩
  rw [World.run_session_bind]
  have hstart : Keeps config world identity.tenant userId today s
      { s with tick := s.tick + 2 } := keeps_of_rows rfl rfl
  refine Exists.imp (fun _ => Exists.imp fun _ => And.imp_right hstart.trans)
    (run_changeAndMark ?_ ?_ (Users.accessTokenOf s.session request) { s with tick := s.tick + 2 })
  · intro u
    exact ⟨_, _, rfl, keeps_of_rows rfl rfl⟩
  · intro e u
    cases e <;> exact ⟨_, _, rfl, keeps_of_rows rfl rfl⟩

/-- It asks Cognito if the two new passwords are the same. -/
theorem passwordResetUpdate_changeCall (real : config.demoMode = false)
    (hidentity : s.session.identity = some identity)
    (hid : Users.resolveUserId identity = .ok userId) {accessToken : Json}
    {previous proposed : String} {answer : Except PyError Unit} :
    ChangeCall (world.answering refusal today)
        (Users.passwordResetUpdate config request identity) s accessToken previous proposed answer ↔
      request.field "new_password" = request.field "confirm_password" ∧
        accessToken = Users.accessTokenOf s.session request ∧
        previous = request.field "current_password" ∧
        proposed = request.field "new_password" ∧ answer = changeAnswer refusal := by
  simp only [Users.passwordResetUpdate, Users.getCurrentIdentity, bind_assoc, pure_bind]
  rw [changeCall_session, hidentity, Option.getD_some, hid]
  simp only
  by_cases hconfirm : request.field "new_password" = request.field "confirm_password"
  swap
  · rw [if_pos hconfirm]
    refine iff_of_false (not_changeCall ?_) fun h => hconfirm h.1
    exact Prog.Calls.bind (flash_calls (by rfl) (fun _ => by rfl) _ _) fun _ => trivial
  rw [if_neg (by simpa using hconfirm), changeCall_session]
  refine (changeCall_iff real ?_ ?_).trans ?_
  · refine Prog.Calls.bind ((markPasswordChanged_calls userId).mono ?_) fun _ => ?_
    · intro op hop
      cases op <;> first | rfl | cases hop
    · exact Prog.Calls.bind (flash_calls (by rfl) (fun _ => by rfl) _ _) fun _ => trivial
  · intro e
    cases e <;> exact Prog.Calls.bind (flash_calls (by rfl) (fun _ => by rfl) _ _) fun _ => trivial
  · simp [hconfirm]

end PasswordResetUpdate

/-! ## The two together -/

section Views

variable {config : Config} {world : World} {request : Request} {identity : Identity}
  {today : String} {s : AppState} {refusal : Option PyError} {userId tenant : String}

/-- What enters `login_required` is the identity of the session, if that has one. -/
theorem entered_identity {s₀ : AppState}
    (h : world.run (loginRequired config request) s₀ = (.ok (.enter identity), s)) :
    s.session.identity = none ∨ s.session.identity = some identity := by
  have hguard : GuardMoves fun s t => t.identity = s.identity ∨ t.identity = none := by
    refine ⟨fun _ => .inl rfl, fun s t u hst htu => ?_, fun _ _ => .inl rfl, fun _ _ _ => .inl rfl,
      fun _ => .inr rfl⟩
    rcases htu with htu | htu
    · rw [htu]
      exact hst
    · exact .inr htu
  have hmoves := run_movesSession (loginRequired_moves hguard config request) world s₀
  rw [h] at hmoves
  rcases hmoves with hkept | hnone
  swap
  · exact .inl hnone
  cases hfirst : s₀.session.identity with
  | none =>
    left
    rw [← hfirst]
    exact hkept
  | some i =>
    right
    have hsame : identity = i := by
      unfold loginRequired at h
      rw [World.run_bind_ok (run_resolveIdentity hfirst)] at h
      simp only at h
      rw [World.run_session_bind] at h
      simp only [hfirst, Option.isSome_some, Bool.true_and] at h
      split at h
      · exact (run_enterRefreshed.mp h).1
      · cases h
        rfl
    rw [hsame, ← hfirst]
    exact hkept

theorem resetSubmit_raises (hnone : s.session.identity = none) :
    ¬ ∃ response t, world.run (Password.resetSubmit config request) s = (.ok response, t) := by
  intro h
  obtain ⟨response, t, hrun⟩ := h
  unfold Password.resetSubmit at hrun
  rw [World.run_session_bind, hnone] at hrun
  cases hrun

theorem passwordResetUpdate_raises (hidentity : s.session.identity = some identity) {e : PyError}
    (hid : Users.resolveUserId identity = .error e) :
    ¬ ∃ response t,
      world.run (Users.passwordResetUpdate config request identity) s = (.ok response, t) := by
  intro h
  obtain ⟨response, t, hrun⟩ := h
  simp only [Users.passwordResetUpdate, Users.getCurrentIdentity, bind_assoc, pure_bind] at hrun
  rw [World.run_session_bind, hidentity, Option.getD_some, hid] at hrun
  cases hrun

theorem confirmed_of_submitErrors (h : Password.submitErrors request = []) :
    request.field "new_password" = request.field "confirm_password" := by
  unfold Password.submitErrors Password.passwordErrors at h
  simp only [List.append_eq_nil_iff] at h
  by_contra hconfirm
  rw [if_pos hconfirm] at h
  cases h.2.2

theorem resetSubmit_changed_iff (real : config.demoMode = false)
    (hidentity : s.session.identity = some identity) :
    Changed config (world.answering refusal today) (Password.resetSubmit config request) s ↔
      (Password.submitErrors request = [] ∧ s.session.accessToken.truthy = true) ∧
        refusal = none := by
  unfold Changed
  rw [if_neg (by simp [real])]
  simp only [resetSubmit_changeCall real hidentity]
  cases refusal <;> simp [changeAnswer]

theorem passwordResetUpdate_changed_iff (real : config.demoMode = false)
    (hidentity : s.session.identity = some identity)
    (hid : Users.resolveUserId identity = .ok userId) :
    Changed config (world.answering refusal today)
        (Users.passwordResetUpdate config request identity) s ↔
      request.field "new_password" = request.field "confirm_password" ∧ refusal = none := by
  unfold Changed
  rw [if_neg (by simp [real])]
  simp only [passwordResetUpdate_changeCall real hidentity hid]
  cases refusal <;> simp [changeAnswer]

theorem changePassword_demo_calls (demo : config.demoMode = true) {P : AppOp → Prop}
    (token : Json) (old new : String) : (changePassword config token old new).Calls P := by
  unfold changePassword
  rw [demo]
  trivial

/-! ## In DEMO_MODE -/

section Demo

variable (demo : config.demoMode = true)

include demo

/-- Cognito is not asked. -/
theorem resetSubmit_demo_not_changeCall {accessToken : Json} {previous proposed : String}
    {answer : Except PyError Unit} :
    ¬ ChangeCall world (Password.resetSubmit config request) s
      accessToken previous proposed answer :=
  not_changeCall (resetSubmit_calls (by rfl) (fun _ => by rfl) (changePassword_demo_calls demo))

theorem passwordResetUpdate_demo_not_changeCall {accessToken : Json} {previous proposed : String}
    {answer : Except PyError Unit} :
    ¬ ChangeCall world (Users.passwordResetUpdate config request identity) s
      accessToken previous proposed answer := by
  refine not_changeCall (passwordResetUpdate_calls (by rfl) (fun _ => by rfl)
    (changePassword_demo_calls demo) fun userId => ?_)
  apply (markPasswordChanged_calls userId).mono
  intro op hop
  cases op <;> first | rfl | cases hop

theorem run_changePassword_demo (token : Json) (old new : String) (s : AppState) :
    world.run (changePassword config token old new) s = (.ok (), s) := by
  unfold changePassword
  rw [demo]
  rfl

/-- A form with errors comes back; any other is taken for a change. -/
theorem run_resetSubmit_demo (hidentity : s.session.identity = some identity) :
    ∃ response t, world.run (Password.resetSubmit config request) s = (.ok response, t) ∧
      (response.completes = true ↔ Password.submitErrors request = []) ∧
      (Password.submitErrors request = [] → t.session.firstLogin = some false) := by
  unfold Password.resetSubmit
  rw [World.run_session_bind, hidentity]
  simp only
  by_cases herrors : Password.submitErrors request = []
  swap
  · rw [if_pos herrors]
    obtain ⟨flashes, tick, hflashed⟩ := @run_flashErrors world (Password.submitErrors request)
      { s with tick := s.tick + 1 }
    rw [World.run_bind_ok hflashed]
    exact ⟨_, _, rfl, by simp [Response.completes, herrors], fun h => absurd h herrors⟩
  obtain ⟨response, t, hrun, hcompletes, hfirst⟩ := @run_submitPassword config request identity _
    world s.session.accessToken { s with tick := s.tick + 1 }
    (run_changePassword_demo demo _ _ _ _)
  rw [if_neg (by simpa using herrors), if_neg (by simp [demo]), World.run_tryCatch_ok hrun]
  exact ⟨response, t, rfl, by simp [hcompletes, herrors], fun _ => hfirst⟩

theorem run_changeDemoRow_stored (tenant userId : String) (f : UserRow → UserRow) (s : AppState) :
    ∃ t, world.run (changeDemoRow tenant userId f) s = (.ok (), t) ∧
      storedRow config world tenant userId t =
        (storedRow config world tenant userId s).map f := by
  unfold changeDemoRow
  rw [World.run_bind_ok (run_demoRows tenant s)]
  simp only [storedRow_demo demo]
  cases hrow : ((s.demoDb.lookup tenant).getD []).lookup userId with
  | none => exact ⟨_, rfl, hrow⟩
  | some row =>
    refine ⟨_, rfl, ?_⟩
    show List.lookup userId ((List.lookup tenant (dictSet tenant _ _)).getD []) = some (f row)
    simp only [lookup_dictSet, if_true, Option.getD_some]

theorem run_markPasswordChanged_demo (tenant userId : String) (s : AppState) :
    ∃ t, (world.answering refusal today).run (markPasswordChanged config tenant userId) s =
        (.ok (), t) ∧
      MarkedChanged config world tenant userId today t := by
  obtain ⟨t, hrun, hstored⟩ := @run_changeDemoRow_stored config (world.answering refusal today)
    demo tenant userId
    (fun row => { row with passwordLastChanged := some today, firstLogin := false })
    { s with tick := s.tick + 1 }
  refine ⟨t, ?_, fun row hrow => ?_⟩
  · unfold markPasswordChanged
    rw [demo]
    exact hrun
  · obtain ⟨old, -, rfl⟩ := Option.map_eq_some_iff.mp (hstored.symm.trans hrow)
    exact ⟨rfl, rfl⟩

/-- A new password that is confirmed is taken for a change, and marked. -/
theorem run_passwordResetUpdate_demo (hidentity : s.session.identity = some identity)
    (hid : Users.resolveUserId identity = .ok userId) : ∃ response t,
    (world.answering refusal today).run (Users.passwordResetUpdate config request identity) s =
        (.ok response, t) ∧
      (response.completes = true ↔
        request.field "new_password" = request.field "confirm_password") ∧
      (response.completes = true →
        MarkedChanged config world identity.tenant userId today t) := by
  simp only [Users.passwordResetUpdate, Users.getCurrentIdentity, bind_assoc, pure_bind]
  rw [World.run_session_bind, hidentity, Option.getD_some, hid]
  simp only
  by_cases hconfirm : request.field "new_password" = request.field "confirm_password"
  swap
  · rw [if_pos hconfirm]
    exact ⟨_, _, rfl, by simp [Response.completes, hconfirm], fun h => by cases h⟩
  rw [if_neg (by simpa using hconfirm), World.run_session_bind]
  obtain ⟨t, hmark, hmarked⟩ := @run_markPasswordChanged_demo config world today refusal demo
    identity.tenant userId { s with tick := s.tick + 2 }
  rw [World.run_tryCatch_ok ((World.run_bind_ok (run_changePassword_demo demo _ _ _ _)).trans
    ((World.run_bind_ok hmark).trans rfl))]
  exact ⟨_, _, rfl, by simp [Response.completes, hconfirm], fun _ => hmarked⟩

theorem resetSubmit_changed_demo (hidentity : s.session.identity = some identity) :
    Changed config world (Password.resetSubmit config request) s ↔
      Password.submitErrors request = [] := by
  obtain ⟨response, t, hrun, hcompletes, -⟩ :=
    @run_resetSubmit_demo config world request identity s demo hidentity
  unfold Changed
  rw [if_pos demo, hrun, ← hcompletes]
  constructor
  · intro h
    obtain ⟨_, _, hsame, hresponse⟩ := h
    cases hsame
    exact hresponse
  · intro hresponse
    exact ⟨response, t, rfl, hresponse⟩

theorem passwordResetUpdate_changed_demo (hidentity : s.session.identity = some identity)
    (hid : Users.resolveUserId identity = .ok userId) :
    Changed config (world.answering refusal today)
        (Users.passwordResetUpdate config request identity) s ↔
      request.field "new_password" = request.field "confirm_password" := by
  obtain ⟨response, t, hrun, hcompletes, -⟩ :=
    @run_passwordResetUpdate_demo config world request identity today s refusal userId demo
      hidentity hid
  unfold Changed
  rw [if_pos demo, hrun, ← hcompletes]
  constructor
  · intro h
    obtain ⟨_, _, hsame, hresponse⟩ := h
    cases hsame
    exact hresponse
  · intro hresponse
    exact ⟨response, t, rfl, hresponse⟩

end Demo

/-! ## What the two views must agree on -/

theorem passwordResetUpdate_firstLogin (hidentity : s.session.identity = some identity)
    (hid : Users.resolveUserId identity = .ok userId) :
    ((world.answering refusal today).run
      (Users.passwordResetUpdate config request identity) s).2.session.firstLogin =
      identity.firstLogin := by
  obtain ⟨response, t, hrun, hkeeps⟩ := @run_passwordResetUpdate config world request identity
    userId today s refusal hidentity hid
  rw [hrun, Session.firstLogin, hkeeps.identity, hidentity]
  rfl

/-- The rows are compared alike, whatever Cognito answers. -/
theorem markedChanged_answering :
    MarkedChanged config (world.answering refusal today) tenant userId today s ↔
      MarkedChanged config world tenant userId today s := Iff.rfl

theorem resetSubmit_marked :
    MarkedChanged config (world.answering refusal today) tenant userId today
        ((world.answering refusal today).run (Password.resetSubmit config request) s).2 ↔
      MarkedChanged config world tenant userId today s := by
  rw [markedChanged_answering]
  have hrows : keyedRows config tenant ((world.answering refusal today).run
      (Password.resetSubmit config request) s).2 = keyedRows config tenant s :=
    run_keyedRows resetSubmit_keepsRows s
  exact ⟨MarkedChanged.congr hrows.symm, MarkedChanged.congr hrows⟩

/-- A change by `reset_submit` must find nothing to mark. -/
theorem Interchangeable.nothing_to_mark
    (h : Interchangeable config (world.answering refusal today) request identity today s)
    (hidentity : s.session.identity = some identity)
    (hid : Users.resolveUserId identity = .ok userId)
    (hreset : Changed config (world.answering refusal today)
      (Password.resetSubmit config request) s)
    (hupdate : Changed config (world.answering refusal today)
      (Users.passwordResetUpdate config request identity) s)
    (hfirst : ((world.answering refusal today).run
      (Password.resetSubmit config request) s).2.session.firstLogin = some false) :
    MarkedChanged config world identity.tenant userId today s ∧
      identity.firstLogin = some false := by
  constructor
  · exact resetSubmit_marked.mp ((h.marks userId hid).1 hreset)
  · rw [← passwordResetUpdate_firstLogin hidentity hid, ← h.firstLogin hreset hupdate]
    exact hfirst

theorem interchangeable_of (hidentity : s.session.identity = some identity)
    (hid : Users.resolveUserId identity = .ok userId)
    (hcalls : ∀ accessToken previous proposed,
      (∃ answer, ChangeCall (world.answering refusal today)
        (Password.resetSubmit config request) s accessToken previous proposed answer) ↔
      ∃ answer, ChangeCall (world.answering refusal today)
        (Users.passwordResetUpdate config request identity) s
        accessToken previous proposed answer)
    (hreset : Changed config (world.answering refusal today)
        (Password.resetSubmit config request) s →
      MarkedChanged config world identity.tenant userId today s ∧
        identity.firstLogin = some false ∧
        ((world.answering refusal today).run
          (Password.resetSubmit config request) s).2.session.firstLogin = some false)
    (hupdate : Changed config (world.answering refusal today)
        (Users.passwordResetUpdate config request identity) s →
      MarkedChanged config world identity.tenant userId today
        ((world.answering refusal today).run
          (Users.passwordResetUpdate config request identity) s).2) :
    Interchangeable config (world.answering refusal today) request identity today s := by
  obtain ⟨response, t, hrun, -⟩ := @run_passwordResetUpdate config world request identity
    userId today s refusal hidentity hid
  refine ⟨hcalls, ⟨resetSubmit_returns hidentity, response, t, hrun⟩, fun userId' hid' => ?_, ?_⟩
  · obtain rfl := Except.ok.inj (hid.symm.trans hid')
    constructor
    · intro hchanged
      exact resetSubmit_marked.mpr (hreset hchanged).1
    · intro hchanged
      exact markedChanged_answering.mpr (hupdate hchanged)
  · intro hchanged _
    obtain ⟨-, hlogin, hfirst⟩ := hreset hchanged
    rw [hfirst, passwordResetUpdate_firstLogin hidentity hid, hlogin]

theorem interchangeable_iff_of_demo (demo : config.demoMode = true)
    (hidentity : s.session.identity = some identity)
    (hid : Users.resolveUserId identity = .ok userId) :
    Interchangeable config (world.answering refusal today) request identity today s ↔
      Password.submitErrors request ≠ [] ∨
        MarkedChanged config world identity.tenant userId today s ∧
          identity.firstLogin = some false := by
  obtain ⟨resetResponse, t, hreset, -, hresetFirst⟩ :=
    @run_resetSubmit_demo config (world.answering refusal today) request identity s demo hidentity
  obtain ⟨updateResponse, u, hupdate, hupdateCompletes, hmarked⟩ :=
    @run_passwordResetUpdate_demo config world request identity today s refusal userId demo
      hidentity hid
  have hresetChanged := @resetSubmit_changed_demo config (world.answering refusal today) request
    identity s demo hidentity
  have hupdateChanged := @passwordResetUpdate_changed_demo config world request identity today s
    refusal userId demo hidentity hid
  constructor
  · intro h
    by_cases herrors : Password.submitErrors request = []
    · right
      refine h.nothing_to_mark hidentity hid (hresetChanged.mpr herrors)
        (hupdateChanged.mpr (confirmed_of_submitErrors herrors)) ?_
      rw [hreset]
      exact hresetFirst herrors
    · exact .inl herrors
  · intro h
    refine interchangeable_of hidentity hid (fun _ _ _ => ?_) (fun hchanged => ?_)
      fun hchanged => ?_
    · exact iff_of_false (fun ⟨_, hcall⟩ => resetSubmit_demo_not_changeCall demo hcall)
        fun ⟨_, hcall⟩ => passwordResetUpdate_demo_not_changeCall demo hcall
    · have herrors := hresetChanged.mp hchanged
      obtain ⟨hstored, hlogin⟩ := h.resolve_left fun hne => hne herrors
      rw [hreset]
      exact ⟨hstored, hlogin, hresetFirst herrors⟩
    · rw [hupdate]
      exact hmarked (hupdateCompletes.mpr (hupdateChanged.mp hchanged))

/-- Outside DEMO_MODE a confirmed password reaches Cognito from `reset_submit` as well. -/
theorem Interchangeable.of_confirmed (real : config.demoMode = false)
    (hidentity : s.session.identity = some identity)
    (hid : Users.resolveUserId identity = .ok userId)
    (h : Interchangeable config (world.answering refusal today) request identity today s)
    (hconfirm : request.field "new_password" = request.field "confirm_password") :
    Password.submitErrors request = [] ∧ s.session.accessToken.truthy = true ∧
      (refusal ≠ none ∨
        MarkedChanged config world identity.tenant userId today s ∧
          identity.firstLogin = some false) := by
  obtain ⟨_, hcalled⟩ := (h.calls _ _ _).mpr
    ⟨_, (passwordResetUpdate_changeCall real hidentity hid).mpr ⟨hconfirm, rfl, rfl, rfl, rfl⟩⟩
  obtain ⟨⟨herrors, htoken⟩, -⟩ := (resetSubmit_changeCall real hidentity).mp hcalled
  refine ⟨herrors, htoken, ?_⟩
  by_cases hrefusal : refusal = none
  · right
    refine h.nothing_to_mark hidentity hid
      ((resetSubmit_changed_iff real hidentity).mpr ⟨⟨herrors, htoken⟩, hrefusal⟩)
      ((passwordResetUpdate_changed_iff real hidentity hid).mpr ⟨hconfirm, hrefusal⟩) ?_
    subst hrefusal
    exact resetSubmit_firstLogin real hidentity herrors htoken
  · exact .inl hrefusal

/-- Nothing more is asked for. -/
theorem interchangeable_of_real (real : config.demoMode = false)
    (hidentity : s.session.identity = some identity)
    (hid : Users.resolveUserId identity = .ok userId)
    (hmet : request.field "new_password" = request.field "confirm_password" →
      Password.submitErrors request = [] ∧ s.session.accessToken.truthy = true ∧
        (refusal ≠ none ∨
          MarkedChanged config world identity.tenant userId today s ∧
            identity.firstLogin = some false)) :
    Interchangeable config (world.answering refusal today) request identity today s := by
  refine interchangeable_of hidentity hid (fun accessToken previous proposed => ?_)
    (fun hchanged => ?_) fun hchanged => ?_
  · simp only [resetSubmit_changeCall real hidentity,
      passwordResetUpdate_changeCall real hidentity hid]
    constructor
    · intro h
      obtain ⟨answer, ⟨herrors, htoken⟩, rfl, hrest⟩ := h
      refine ⟨answer, confirmed_of_submitErrors herrors, ?_, hrest⟩
      exact (if_pos htoken).symm
    · intro h
      obtain ⟨answer, hconfirm, rfl, hrest⟩ := h
      obtain ⟨herrors, htoken, -⟩ := hmet hconfirm
      exact ⟨answer, ⟨herrors, htoken⟩, if_pos htoken, hrest⟩
  · obtain ⟨⟨herrors, htoken⟩, rfl⟩ := (resetSubmit_changed_iff real hidentity).mp hchanged
    obtain ⟨-, -, hmarks⟩ := hmet (confirmed_of_submitErrors herrors)
    obtain ⟨hstored, hlogin⟩ := hmarks.resolve_left fun hne => hne rfl
    exact ⟨hstored, hlogin, resetSubmit_firstLogin real hidentity herrors htoken⟩
  · obtain ⟨hconfirm, hrefusal⟩ :=
      (passwordResetUpdate_changed_iff real hidentity hid).mp hchanged
    obtain ⟨-, -, hmarks⟩ := hmet hconfirm
    obtain ⟨response, t, hrun, hkeeps⟩ := @run_passwordResetUpdate config world request identity
      userId today s refusal hidentity hid
    rw [hrun]
    exact hkeeps.marked real (hmarks.resolve_left fun hne => hne hrefusal).1

theorem interchangeable_iff_of_real (real : config.demoMode = false)
    (hidentity : s.session.identity = some identity)
    (hid : Users.resolveUserId identity = .ok userId) :
    Interchangeable config (world.answering refusal today) request identity today s ↔
      request.field "new_password" ≠ request.field "confirm_password" ∨
        Password.submitErrors request = [] ∧ s.session.accessToken.truthy = true ∧
          (refusal ≠ none ∨
            MarkedChanged config world identity.tenant userId today s ∧
              identity.firstLogin = some false) := by
  constructor
  · intro h
    by_cases hconfirm : request.field "new_password" = request.field "confirm_password"
    · exact .inr (h.of_confirmed real hidentity hid hconfirm)
    · exact .inl hconfirm
  · intro h
    exact interchangeable_of_real real hidentity hid fun hconfirm =>
      h.resolve_left fun hne => hne hconfirm

/-- The views are interchangeable exactly for the changes of `ChangesAlike`. -/
theorem changesAlike_iff {s₀ : AppState}
    (h : (world.answering refusal today).run (loginRequired config request) s₀ =
      (.ok (.enter identity), s)) :
    Interchangeable config (world.answering refusal today) request identity today s ↔
      ChangesAlike config world request identity today s refusal := by
  unfold ChangesAlike
  rcases entered_identity h with hnone | hidentity
  · refine iff_of_false (fun hsame => ?_) fun halike => ?_
    · exact resetSubmit_raises hnone hsame.returns.1
    · rw [hnone] at halike
      cases halike.1
  cases hid : Users.resolveUserId identity with
  | error e =>
    refine iff_of_false (fun hsame => ?_) fun ⟨_, userId, huser, _⟩ => by cases huser
    exact passwordResetUpdate_raises hidentity hid hsame.returns.2
  | ok userId =>
    cases demo : config.demoMode with
    | true =>
      rw [interchangeable_iff_of_demo demo hidentity hid]
      simp [hidentity]
    | false =>
      rw [interchangeable_iff_of_real demo hidentity hid]
      simp [hidentity]

end Views

/-- A change to a password that meets the rules, confirmed as given. -/
def changeRequest (confirm : String) : Request where
  method := "POST"
  path := "/api/v1/password/reset"
  headers _ := none
  cookies _ := none
  args _ := none
  form name :=
    if name = "current_password" then some "Abcdefgh1234!?"
    else if name = "new_password" then some "Sesame-Open-2026"
    else if name = "confirm_password" then some confirm
    else none

/-- alice has signed in, and has this row. -/
def aliceState (row : UserRow) : AppState :=
  { emptyState with
    rds :=
      { committed := Rds.setTable (fun _ => []) .tenantA [row]
        working := fun _ => [] }
    session := { Session.cleared with
      identity := some sampleAdmin
      accessToken := .str "at" } }

/-- A row with the mark of a first login. -/
def firstLoginRow : UserRow :=
  { UserRow.withDefaults "u-1" "alice" "" "admin" with firstLogin := true }

/-- Her row once the password was changed that day. -/
def changedRow : UserRow :=
  { firstLoginRow with
    firstLogin := false
    passwordLastChanged := some "2026-08-01" }

theorem alice_enters (refusal : Option PyError) (request : Request) (row : UserRow) :
    (quietWorld.answering refusal "2026-08-01").run (loginRequired sampleConfig request)
      (aliceState row) = (.ok (.enter sampleAdmin), { aliceState row with tick := 3 }) := rfl

/-- Both refuse a new password that is not confirmed, and show a refusal of Cognito; a second change
on one day leaves nothing to mark. -/
theorem alice_interchangeable :
    Interchangeable sampleConfig (quietWorld.answering none "2026-08-01") (changeRequest "typo")
      sampleAdmin "2026-08-01" { aliceState firstLoginRow with tick := 3 } ∧
    Interchangeable sampleConfig
      (quietWorld.answering (some (.clientError "NotAuthorizedException")) "2026-08-01")
      (changeRequest "Sesame-Open-2026") sampleAdmin "2026-08-01"
      { aliceState firstLoginRow with tick := 3 } ∧
    Interchangeable sampleConfig (quietWorld.answering none "2026-08-01")
      (changeRequest "Sesame-Open-2026") sampleAdmin "2026-08-01"
      { aliceState changedRow with tick := 3 } := by
  have herrors : Password.submitErrors (changeRequest "Sesame-Open-2026") = [] := by decide
  have hmarked : MarkedChanged sampleConfig quietWorld "TenantA" "u-1" "2026-08-01"
      { aliceState changedRow with tick := 3 } := by
    rintro _ ⟨⟩
    exact ⟨rfl, rfl⟩
  refine ⟨?unconfirmed, ?refused, ?again⟩
  · exact (changesAlike_iff (alice_enters _ _ _)).mpr ⟨rfl, "u-1", rfl, .inl (by decide)⟩
  · exact (changesAlike_iff (alice_enters _ _ _)).mpr
      ⟨rfl, "u-1", rfl, .inr ⟨herrors, rfl, .inl nofun⟩⟩
  · exact (changesAlike_iff (alice_enters _ _ _)).mpr
      ⟨rfl, "u-1", rfl, .inr ⟨herrors, rfl, .inr ⟨hmarked, rfl⟩⟩⟩

/-- `reset_submit` leaves the row of alice as it was. -/
theorem reset_leaves_row : ¬ ∀ (config : Config) (world : World) (request : Request)
    (identity : Identity) (refusal : Option PyError) (today : String) (s₀ s : AppState),
    (world.answering refusal today).run (loginRequired config request) s₀ =
      (.ok (.enter identity), s) → s.session.accessToken.truthy = true →
    Interchangeable config (world.answering refusal today) request identity today s := by
  intro h
  have hsame := h sampleConfig quietWorld (changeRequest "Sesame-Open-2026") sampleAdmin none
    "2026-08-01" (aliceState firstLoginRow) _ (alice_enters _ _ _) rfl
  rcases (interchangeable_iff_of_real rfl rfl rfl).mp hsame with hconfirm |
    ⟨-, -, hrefused | hmarked⟩
  · exact hconfirm rfl
  · exact hrefused rfl
  · cases (hmarked.1 _ rfl).1

end TenantSaas
