import TenantSaas.Accounts.Creates
import TenantSaas.Profile.Saves

/-!
# Creates and saves, served

The two requests that put rows, from admission to response: what they leave when they show the
new user or send the user on, and that they leave every row otherwise.
-/

namespace TenantSaas

open Directory

/-- An admitted request, with the session of the browser that sends it. -/
structure Submission where
  identity : Identity
  request : Request
  session : Session

/-- The state as a browser's request finds it. -/
def AppState.receiving (s : AppState) (sent : Submission) : AppState :=
  { s with session := sent.session }

/-- What a save has done that sends the user on. -/
structure SavedRow (config : Config) (world : World) (tenant userId name : String)
    (s t : AppState) : Prop where
  put : Keyed (keyText config world) (keyedRows config tenant s) →
    ∃ (base : UserRow) (change : UserRow → UserRow), base.userId = userId ∧ base.enabled = true ∧
      (∀ row, (change row).username = name ∧ (change row).userId = row.userId ∧
        (change row).enabled = row.enabled) ∧
      Put (keyText config world) userId (change base) change (keyedRows config tenant s)
        (keyedRows config tenant t)
  others : ∀ tenant', tenant' ≠ tenant → keyedRows config tenant' t = keyedRows config tenant' s

section Served

variable {config : Config} {world : World} {lower : String → String} {request : Request}
  {identity : Identity} {route : Route} {s t u : AppState}

/-- The response as the error handler leaves it. -/
def handled : Except PyError Response → Response
  | .ok response => response
  | .error _ => serverError

/-- A request leaves the accounts and the rows as its view does. -/
theorem run_served {r : Except PyError Response}
    (h : world.run (serveAs config lower request route identity) s = (r, t)) : ∃ r' u,
    world.run (route.view config lower request identity) s = (r', u) ∧ r = .ok (handled r') ∧
      accounts t = accounts u ∧
        ∀ tenant, keyedRows config tenant t = keyedRows config tenant u := by
  have haccounts := @serveAs_accounts world config lower request route identity s
  have hrows : ∀ tenant,
      keyedRows config tenant (world.run (serveAs config lower request route identity) s).2 =
        keyedRows config tenant (world.run (route.view config lower request identity) s).2 := by
    intro tenant
    refine serveAs_frame world.exec (fun op s hop => ?_) config lower request route identity s
    apply exec_keyedRows
    cases op <;> first | rfl | cases hop
  obtain ⟨t', hrun⟩ := run_serveAs world.exec config lower request route identity s
  rw [h] at haccounts hrows
  refine ⟨_, _, rfl, ?_, haccounts, hrows⟩
  have hresponse := congrArg Prod.fst (h.symm.trans hrun)
  rw [show r = _ from hresponse]
  rcases world.run (route.view config lower request identity) s with ⟨e | response, u⟩ <;> rfl

theorem CreatedRow.of_same {tenant userId username : String}
    (h : CreatedRow config world tenant userId username s t)
    (haccounts : accounts u = accounts t)
    (hrows : ∀ tenant, keyedRows config tenant u = keyedRows config tenant t) :
    CreatedRow config world tenant userId username s u := by
  refine ⟨⟨h.account.new, ?_, fun key hkey => ?_⟩, fun keyed => ?_, fun tenant' htenant => ?_⟩
  · rw [enabledFlag_congr haccounts]
    exact h.account.enabled
  · rw [enabledFlag_congr haccounts]
    exact h.account.others key hkey
  · rw [hrows]
    exact h.put keyed
  · rw [hrows]
    exact h.others tenant' htenant

/-- A served create shows the new user, or every row is as before. -/
theorem run_serveCreate {response : Response}
    (h : world.run (serveAs config lower request .createUser identity) s = (.ok response, t)) :
    response.created = true ∧ CreatedRow config world identity.tenant
        (newUserDraw world request s.tick).1 (Admin.NewUser.read request).username s t ∨
      response.created = false ∧
        ∀ tenant, keyedRows config tenant t = keyedRows config tenant s := by
  obtain ⟨r, u, hview, hr, haccounts, hrows⟩ := run_served h
  change world.run (Admin.createUser config request identity) s = _ at hview
  cases hr
  rcases run_createUser hview with ⟨response, rfl, hcreated, hrow⟩ | ⟨hnot, hkept⟩
  · exact .inl ⟨hcreated, hrow.of_same haccounts hrows⟩
  · refine .inr ⟨?_, fun tenant => (hrows tenant).trans (hkept tenant)⟩
    cases r with
    | ok response => exact hnot response rfl
    | error e => rfl

/-- The entries after a save: old ones with other keys, and the one that was changed or added,
which has the name. -/
theorem SavedRow.mem {tenant userId name : String}
    (h : SavedRow config world tenant userId name s t)
    (keyed : Keyed (keyText config world) (keyedRows config tenant s)) {entry : String × UserRow}
    (hentry : entry ∈ keyedRows config tenant t) :
    (entry ∈ keyedRows config tenant s ∧
        keyText config world entry.1 ≠ keyText config world userId) ∨
      entry.2.username = name ∧
        ((∃ old ∈ keyedRows config tenant s,
            keyText config world old.1 = keyText config world userId ∧ entry.1 = old.1 ∧
              entry.2.userId = old.2.userId ∧ entry.2.enabled = old.2.enabled) ∨
          (∀ old ∈ keyedRows config tenant s,
            keyText config world old.1 ≠ keyText config world userId) ∧
              entry.1 = userId ∧ entry.2.userId = userId ∧ entry.2.enabled = true) := by
  obtain ⟨base, change, huserId, henabled, hchange, hput⟩ := h.put keyed
  rcases hput.mem hentry with hold | ⟨old, hold, hsame, rfl⟩ | ⟨hnone, rfl⟩
  · exact .inl hold
  · obtain ⟨hname, hid, hflag⟩ := hchange old.2
    exact .inr ⟨hname, .inl ⟨old, hold, hsame, rfl, hid, hflag⟩⟩
  · obtain ⟨hname, hid, hflag⟩ := hchange base
    exact .inr ⟨hname, .inr ⟨hnone, rfl, hid.trans huserId, hflag.trans henabled⟩⟩

theorem SavedRow.rowsKeyed {tenant userId name : String}
    (h : SavedRow config world tenant userId name s t) (tenant' : String)
    (keyed : RowsKeyed config world tenant' s) : RowsKeyed config world tenant' t := by
  refine keyed.of_others h.others fun keyed => ?_
  obtain ⟨base, change, -, -, -, hput⟩ := h.put keyed.keyed
  refine ⟨hput.keyed keyed.keyed, fun entry hentry => ?_⟩
  rcases h.mem keyed.keyed hentry with
    ⟨hold, -⟩ | ⟨-, ⟨old, hold, -, hkey, huserId, -⟩ | ⟨-, hkey, huserId, -⟩⟩
  · exact keyed.userId entry hold
  · rw [hkey, huserId]
    exact keyed.userId old hold
  · rw [hkey, huserId]

theorem SavedRow.keeps_key {tenant tenant' userId name : String}
    (h : SavedRow config world tenant userId name s t)
    (keyed : Keyed (keyText config world) (keyedRows config tenant s)) {entry : String × UserRow}
    (hentry : entry ∈ keyedRows config tenant' s) :
    ∃ entry' ∈ keyedRows config tenant' t, entry'.1 = entry.1 := by
  obtain ⟨base, change, -, -, -, hput⟩ := h.put keyed
  exact keepsKey_of_put h.others hput hentry

theorem userDetailsUpdate_keepsAccounts :
    (Users.userDetailsUpdate config request identity).Calls
      fun op => op.changesAccounts = false := by
  refine Prog.Calls.bind (Prog.Calls.bind (perform_calls (by rfl)) fun _ => trivial)
    fun current => ?_
  cases Users.resolveUserId current with
  | error e => exact Prog.Calls.bind (flash_keeps _ _) fun _ => trivial
  | ok userId =>
    dsimp only
    generalize Users.ProfileForm.read request = form
    split
    · exact Prog.Calls.bind (flashErrors_calls (by rfl) (fun _ => by rfl) _) fun _ => trivial
    refine Prog.Calls.handle ?_ fun _ => Prog.Calls.bind (flash_keeps _ _) fun _ => trivial
    refine Prog.Calls.bind ?_ fun phone => ?_
    · unfold encryptField
      split
      · trivial
      split
      · trivial
      · exact Prog.Calls.bind (perform_calls (by rfl)) fun _ => trivial
    refine Prog.Calls.bind (onTenant_keeps (upsertUserProfile_calls userId _ _)) fun _ => ?_
    refine Prog.Calls.bind ?_ fun _ => Prog.Calls.bind (flash_keeps _ _) fun _ => trivial
    refine Prog.Calls.bind (perform_calls (by rfl)) fun session => ?_
    cases session.identity with
    | none => trivial
    | some _ => exact perform_calls (by rfl)

/-- A served save sends the user on, or every row is as before; the accounts always are. -/
theorem run_serveSave {response : Response}
    (h : world.run (serveAs config lower request .userDetailsUpdate identity) s =
      (.ok response, t)) :
    accounts t = accounts s ∧
      ((response.saved = true ∧ ∃ userId,
          Users.resolveUserId (s.session.identity.getD identity) = .ok userId ∧
            SavedRow config world identity.tenant userId (Users.ProfileForm.read request).name s
              t) ∨
        response.saved = false ∧
          ∀ tenant, keyedRows config tenant t = keyedRows config tenant s) := by
  obtain ⟨r, u, hview, hr, haccounts, hrows⟩ := run_served h
  change world.run (Users.userDetailsUpdate config request identity) s = _ at hview
  cases hr
  have hkept := Prog.run_frame world.exec (fun _ s hop => exec_accounts hop s)
    (@userDetailsUpdate_keepsAccounts config request identity) s
  rw [show Prog.run world.exec _ s = _ from hview] at hkept
  refine ⟨haccounts.trans hkept, ?_⟩
  rcases run_userDetailsUpdate hview with ⟨response, rfl, hsaved, userId, phone, v, w, saved⟩ |
    ⟨hnot, hsame⟩
  · have hentered := saved.rows_before
    obtain ⟨session, tick, hafter, -⟩ := saved.after
    have hput := saved.put
    have hrowsAfter : ∀ tenant, keyedRows config tenant t = keyedRows config tenant w := by
      intro tenant
      rw [hrows, hafter]
      rfl
    refine .inl ⟨hsaved, userId, saved.resolved, fun keyed => ?_, fun tenant' htenant => ?_⟩
    · obtain ⟨base, huserId, henabled, hbase⟩ :=
        upsert_put (s := v) (by rw [hentered]; exact keyed) hput
      rw [hentered, ← hrowsAfter] at hbase
      exact ⟨base, _, huserId, henabled, fun row => ⟨setAll_fields_username _ _ row,
        setAll_userId _ _, setAll_enabled _ _⟩, hbase⟩
    · have hothers := @upsert_others config world identity.tenant tenant' userId
        (s.session.identity.getD identity).role
        ((Users.ProfileForm.read request).fields phone) htenant v
      rw [hput] at hothers
      rw [hrowsAfter, hothers, hentered]
  · refine .inr ⟨?_, fun tenant => (hrows tenant).trans (hsame tenant)⟩
    cases r with
    | ok response => exact hnot response rfl
    | error e => rfl

end Served

end TenantSaas
