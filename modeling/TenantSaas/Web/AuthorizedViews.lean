import TenantSaas.Accounts.CognitoAccounts
import TenantSaas.Profile.Upserts
import TenantSaas.Web.Authority

/-!
# A walk through the views

One walk through the services and the views, whether the authority of the identity is checked or
only that they stay with its tenant: each statement is on the tenant's table and, if that is
checked, under the user id of the identity unless it belongs to an administrator.
-/

namespace TenantSaas

/-- What the walk asks of a class of programs: that it has the pieces of the views, of which more
is known where the authority of the identity is checked. -/
structure ViewRules (checked : Prop) (config : Config) (identity : Identity) (signedIn : Bool)
    (C : {α : Type} → App α → Prop) : Prop where
  ret : ∀ {α : Type} (a : α), C (.ret a)
  raise : ∀ {α : Type} (e : PyError), C (.raise e : App α)
  bind : ∀ {α β : Type} {p : App α} {f : α → App β}, C p → (∀ a, C (f a)) → C (p.bind f)
  handle : ∀ {α : Type} {p : App α} {handler : PyError → App α}, C p →
    (∀ e, C (handler e)) → C (p.handle handler)
  perform : ∀ {op : AppOp}, op.OfView identity.tenant →
    (checked → op.AllowedFor identity ∧ op.makesAccount = false) → C (perform op)
  account : (checked → identity.role = "admin") → ∀ {role : String},
    role = "admin" ∨ role = "user" → ∀ username email,
      C (createCognitoUser config username email identity.tenant role)
  reading : ∀ {α : Type} {body : App α},
    body.Calls (fun op => op.reads = true ∧ op.Inside identity.tenant ∧
      (checked → op.AllowedFor identity)) → C (withConnection body)
  transaction : ∀ {α : Type} {body : App α},
    body.Calls (fun op => (op.reads || op.locks) = true ∧ op.Inside identity.tenant ∧
      (checked → op.AllowedFor identity)) → C (transaction body)
  session : ∀ {α : Type} {f : Session → App α},
    (∀ s, (checked → s.SpeaksFor identity signedIn) →
      AfterReading C (fun new => s.SameKeys new ∧
        (checked → new.SpeaksFor identity signedIn)) (f s)) →
      C ((TenantSaas.perform .session).bind f)

section Rules

variable {config : Config} {identity : Identity} {signedIn : Bool}
  {C : {α : Type} → App α → Prop}

/-- Where nothing is checked, the tenant is enough. -/
theorem Closed.rules (hC : Closed identity.tenant C) :
    ViewRules False config identity signedIn C where
  ret := hC.ret
  raise := hC.raise
  bind := hC.bind
  handle := hC.handle
  perform hview _ := hC.perform hview
  account _ {role} _ username email := createCognitoUser_closed hC username email role
  reading hbody := hC.connection (hbody.mono fun _ hop => hop.2.1)
  transaction hbody := transaction_closed hC (hbody.mono fun _ hop => hop.2.1)
  session h := hC.session fun s => (h s False.elim).mono fun _ hnew => hnew.1

theorem off_outside {tenant : String} {op : AppOp} (h : op.Off tenant) : op.isSql = false := by
  cases op <;> first | rfl | cases h

theorem Serves.rules (hC : Serves config identity signedIn C) :
    ViewRules True config identity signedIn C where
  ret := hC.ret
  raise := hC.raise
  bind := hC.bind
  handle := hC.handle
  perform hview hallowed := by
    obtain ⟨hallowed, hsingle⟩ := hallowed trivial
    exact hC.perform ⟨hallowed, off_outside hview.off, hview.keepsSession, hsingle⟩
  account admin := hC.account (admin trivial)
  reading hbody := hC.reading (hbody.mono fun _ hop => ⟨hop.1, hop.2.2 trivial⟩)
  transaction hbody := hC.transaction (hbody.mono fun _ hop => ⟨hop.1, hop.2.2 trivial⟩)
  session h := hC.session fun s hs => (h s fun _ => hs).mono fun _ hnew => hnew.2 trivial

end Rules

section Services

variable {checked : Prop} {config : Config} {identity : Identity} {signedIn : Bool}
  {C : {α : Type} → App α → Prop} (hC : ViewRules checked config identity signedIn C)

include hC

/-! ## The services -/

theorem ViewRules.ofExcept {α : Type} (r : Except PyError α) : C (Prog.ofExcept r) := by
  cases r with
  | ok a => exact hC.ret a
  | error e => exact hC.raise e

theorem ViewRules.ofExcept_bind {α β : Type} {r : Except PyError α} {f : α → App β}
    (h : ∀ a, r = .ok a → C (f a)) : C ((Prog.ofExcept r : App α).bind f) := by
  cases r with
  | ok a => exact h a rfl
  | error e => exact hC.raise e

/-- One statement in a transaction. -/
theorem write_serves {table : TenantTable} (htable : tableForTenant identity.tenant = .ok table)
    {statement : RowWrite} (h : checked → statement.AllowedFor identity) :
    C (transaction do
      let _ ← perform (.write table statement)
      pure ()) :=
  hC.transaction (Prog.Calls.bind (perform_calls ⟨rfl, htable, fun hchecked =>
    ⟨htable, h hchecked⟩⟩) fun _ => trivial)

theorem demoRows_serves : C (demoRows identity.tenant) :=
  hC.bind (hC.perform ⟨rfl, rfl, rfl⟩ fun _ => ⟨rfl, rfl⟩) fun _ => hC.ret _

theorem changeDemoRow_serves (userId : String) (f : UserRow → UserRow) :
    C (changeDemoRow identity.tenant userId f) := by
  refine hC.bind (demoRows_serves hC) fun rows => ?_
  cases rows.lookup userId with
  | none => exact hC.ret _
  | some row => exact hC.perform ⟨rfl, rfl, rfl⟩ fun _ => ⟨rfl, rfl⟩

theorem getUserById_serves {userId : String} (own : checked → Users.resolveUserId identity = .ok userId) :
    C (getUserById config identity.tenant userId) := by
  refine hC.ofExcept_bind fun table htable => ?_
  split
  · exact hC.bind (demoRows_serves hC) fun _ => hC.ret _
  split
  · exact hC.ret _
  · refine hC.reading (Prog.Calls.bind (perform_calls ⟨rfl, htable, ?_⟩) fun _ => trivial)
    exact fun h => ⟨htable, .inr ⟨userId, own h, rfl⟩⟩

theorem listUsers_serves (admin : checked → identity.role = "admin") (lower : String → String)
    (search : String) (page pageSize : Nat) :
    C (listUsers config lower identity.tenant search page pageSize) := by
  unfold listUsers
  split
  · exact hC.bind (demoRows_serves hC) fun _ => hC.ret _
  · refine hC.ofExcept_bind fun table htable => hC.reading ?_
    refine Prog.Calls.bind (perform_calls ⟨rfl, htable, fun h => ⟨htable, admin h⟩⟩)
      fun total => ?_
    refine Prog.Calls.bind (perform_calls ⟨rfl, htable, fun h => ⟨htable, .inl (admin h)⟩⟩)
      fun rows => ?_
    exact Prog.Calls.bind (perform_calls ⟨rfl, htable, fun h => ⟨htable, admin h⟩⟩)
      fun agg => trivial

theorem upsertUserProfile_serves {userId role : String}
    (own : checked → Users.resolveUserId identity = .ok userId)
    (hrole : checked → role = identity.role) (fields : List (String × String)) :
    C (upsertUserProfile config identity.tenant userId fields role) := by
  unfold upsertUserProfile
  split
  · exact hC.bind (demoRows_serves hC) fun _ => hC.perform ⟨rfl, rfl, rfl⟩ fun _ => ⟨rfl, rfl⟩
  · refine hC.ofExcept_bind fun table htable => hC.transaction ?_
    refine Prog.Calls.bind (perform_calls ⟨rfl, htable, fun h => ⟨htable, own h⟩⟩)
      fun existing => ?_
    cases existing with
    | some _ =>
      show Prog.Calls _ (if _ then _ else _)
      split
      · trivial
      · have heditable : ∀ field ∈ editable fields, field.1 ∈ editableProfileFields := by
          intro field hfield
          exact List.contains_iff_mem.mp (List.mem_filter.mp hfield).2
        refine Prog.Calls.bind (perform_calls ⟨rfl, htable, fun h =>
          ⟨htable, own h, heditable⟩⟩) fun rowcount => ?_
        split <;> trivial
    | none =>
      have hkeys : ∀ field ∈ editable fields, field.1 ∈ fields.map Prod.fst :=
        editable_keys fun field hfield => List.mem_map_of_mem hfield
      have hrow := (UserRow.withDefaults userId userId "" role).keeps_setAll hkeys
      refine Prog.Calls.bind (perform_calls ⟨rfl, htable, fun h => ⟨htable, .inr ⟨?_, ?_⟩⟩⟩)
        fun rowcount => ?_
      · rw [hrow.userId]
        exact own h
      · exact hrow.role.trans (hrole h)
      split <;> trivial

theorem createUserRecord_serves (admin : checked → identity.role = "admin") {role : String}
    (hrole : role = "admin" ∨ role = "user") (userId username email : String) :
    C (createUserRecord config identity.tenant userId username email role) := by
  unfold createUserRecord
  split
  · exact hC.bind (demoRows_serves hC) fun _ => hC.perform ⟨rfl, rfl, rfl⟩ fun _ => ⟨rfl, rfl⟩
  · exact hC.ofExcept_bind fun table htable => write_serves hC htable fun h =>
      .inl ⟨admin h, hrole⟩

theorem deleteUserRecord_serves (admin : checked → identity.role = "admin") (userId : String)
    (hardDelete : Bool) : C (deleteUserRecord config identity.tenant userId hardDelete) := by
  unfold deleteUserRecord
  split
  · split
    · refine hC.bind (hC.perform ⟨rfl, rfl, rfl⟩ fun _ => ⟨rfl, rfl⟩) fun rows => ?_
      cases rows with
      | none => exact hC.ret _
      | some rows => exact hC.perform ⟨rfl, rfl, rfl⟩ fun _ => ⟨rfl, rfl⟩
    · exact changeDemoRow_serves hC userId _
  · refine hC.ofExcept_bind fun table htable => write_serves hC htable ?_
    cases hardDelete <;> exact admin

theorem setUserEnabled_serves (admin : checked → identity.role = "admin") (userId : String)
    (enabled : Bool) : C (setUserEnabled config identity.tenant userId enabled) := by
  unfold setUserEnabled
  split
  · exact changeDemoRow_serves hC userId _
  · exact hC.ofExcept_bind fun table htable => write_serves hC htable admin

theorem markPasswordChanged_serves {userId : String}
    (own : checked → Users.resolveUserId identity = .ok userId) :
    C (markPasswordChanged config identity.tenant userId) := by
  refine hC.bind (hC.perform ⟨trivial, rfl, rfl⟩ fun _ => ⟨trivial, rfl⟩) fun today => ?_
  split
  · exact changeDemoRow_serves hC userId _
  · exact hC.ofExcept_bind fun table htable => write_serves hC htable own

theorem deleteCognitoUser_serves (admin : checked → identity.role = "admin") (username : String) :
    C (deleteCognitoUser config username) := by
  unfold deleteCognitoUser
  split
  · exact hC.perform ⟨trivial, rfl, rfl⟩ fun h => ⟨admin h, rfl⟩
  · exact hC.perform ⟨trivial, rfl, rfl⟩ fun h => ⟨⟨admin h, trivial⟩, rfl⟩

theorem cognitoSetEnabled_serves (admin : checked → identity.role = "admin") (username : String)
    (enabled : Bool) : C (cognitoSetEnabled config username enabled) := by
  unfold cognitoSetEnabled
  split
  · refine hC.bind (hC.perform ⟨trivial, rfl, rfl⟩ fun h => ⟨admin h, rfl⟩) fun user => ?_
    cases user with
    | none => exact hC.ret _
    | some user => exact hC.perform ⟨trivial, rfl, rfl⟩ fun h => ⟨admin h, rfl⟩
  · refine hC.perform ⟨trivial, rfl, rfl⟩ fun h => ⟨⟨admin h, ?_⟩, ?_⟩ <;>
      (cases enabled <;> trivial)

theorem changePassword_serves (accessToken : Json) (previous proposed : String) :
    C (changePassword config accessToken previous proposed) := by
  unfold changePassword
  split
  · exact hC.ret _
  · exact hC.perform ⟨trivial, rfl, rfl⟩ fun _ => ⟨trivial, rfl⟩

theorem encryptField_serves (plaintext : String) : C (encryptField config plaintext) := by
  unfold encryptField
  split
  · exact hC.ret _
  split
  · exact hC.ret _
  · exact hC.bind (hC.perform ⟨trivial, rfl, rfl⟩ fun _ => ⟨trivial, rfl⟩) fun _ => hC.ret _

theorem decryptField_serves (ciphertext : String) : C (decryptField ciphertext) := by
  unfold decryptField
  split
  · exact hC.ret _
  split
  · exact hC.bind (hC.ofExcept _) fun _ => hC.ofExcept _
  · refine hC.bind (hC.ofExcept _) fun blob => ?_
    exact hC.bind (hC.perform ⟨trivial, rfl, rfl⟩ fun _ => ⟨trivial, rfl⟩) fun _ => hC.ofExcept _

theorem currentBillingPeriod_serves : C currentBillingPeriod :=
  hC.bind (hC.perform ⟨trivial, rfl, rfl⟩ fun _ => ⟨trivial, rfl⟩) fun _ => hC.ret _

theorem queryTenantAggregates_serves : C (queryTenantAggregates config identity.tenant) := by
  unfold queryTenantAggregates
  split
  · exact hC.bind (currentBillingPeriod_serves hC) fun _ => hC.ret _
  split
  · exact hC.ret _
  refine hC.handle ?_ ?_
  · exact hC.bind (hC.perform ⟨rfl, rfl, rfl⟩ fun _ => ⟨rfl, rfl⟩) fun _ => hC.ret _
  · intro e
    cases e <;> first | exact hC.ret _ | exact hC.raise _

theorem periodOrCurrent_serves (period : Option String) : C (periodOrCurrent period) := by
  unfold periodOrCurrent
  split
  · split
    · exact currentBillingPeriod_serves hC
    · exact hC.ret _
  · exact currentBillingPeriod_serves hC

theorem calculateInvoice_serves (period : Option String) :
    C (calculateInvoice config identity.tenant period) := by
  refine hC.bind (periodOrCurrent_serves hC period) fun period => ?_
  refine hC.bind ?_ fun _ => hC.ret _
  refine hC.bind (periodOrCurrent_serves hC _) fun period => ?_
  exact hC.bind (queryTenantAggregates_serves hC) fun _ => hC.ret _

theorem calculateInvoices_serves (periods : List String) :
    C (calculateInvoices config identity.tenant periods) := by
  induction periods with
  | nil => exact hC.ret _
  | cons period periods ih =>
    refine hC.bind (calculateInvoice_serves hC _) fun invoice => ?_
    exact hC.bind ih fun _ => hC.ret _

theorem getInvoices_serves (limit : Nat) : C (getInvoices config identity.tenant limit) := by
  refine hC.bind (queryTenantAggregates_serves hC) fun periods => ?_
  split
  · refine hC.bind (currentBillingPeriod_serves hC) fun current => ?_
    exact hC.bind (calculateInvoice_serves hC _) fun _ => hC.ret _
  · exact calculateInvoices_serves hC _

/-! ## The session -/

/-- Reading the session without writing it. -/
theorem readSession_serves {α : Type} {f : Session → App α}
    (h : ∀ s, (checked → s.SpeaksFor identity signedIn) → C (f s)) :
    C ((perform .session).bind f) :=
  hC.session fun s hs => .leaves (h s hs)

theorem flash_serves (message category : String) : C (flash message category) := by
  refine hC.session fun s hs => ?_
  rw [← Prog.bind_ret (perform (.setSession _))]
  exact .writes _ _ ⟨⟨rfl, id⟩, fun h => (hs h).congr rfl⟩ fun u => hC.ret u

theorem render_serves (page : Page) : C (render page) :=
  hC.session fun _ hs => .writes _ _ ⟨⟨rfl, id⟩, fun h => (hs h).congr rfl⟩ fun _ => hC.ret _

theorem flashErrors_serves (errors : List String) : C (flashErrors errors) := by
  induction errors with
  | nil => exact hC.ret ()
  | cons e errors ih => exact hC.bind (flash_serves hC e _) fun _ => ih

/-- A message and a redirect. -/
theorem flashThen_serves {α : Type} (message category : String) (a : α) :
    C ((flash message category).bind fun _ => .ret a) :=
  hC.bind (flash_serves hC message category) fun _ => hC.ret a

/-- `_get_current_identity` finds the same person. -/
theorem getCurrentIdentity_serves {α : Type} {f : Identity → App α}
    (h : ∀ current, (checked → identity.Alike current) → C (f current)) :
    C ((Users.getCurrentIdentity identity).bind f) := by
  rw [Users.getCurrentIdentity, Prog.bind_def, Prog.bind_assoc]
  refine readSession_serves hC fun s hs => h _ fun hchecked => ?_
  cases hcurrent : s.identity with
  | none => exact .refl identity
  | some current => exact (hs hchecked).alike current hcurrent

theorem keepIdentity_serves {current : Identity} (halike : checked → identity.Alike current) :
    C (Users.keepIdentity current) := by
  refine hC.session fun s hs => ?_
  cases hcurrent : s.identity with
  | none => exact .leaves (hC.ret _)
  | some _ =>
    show AfterReading C _ (perform _)
    rw [← Prog.bind_ret (perform (.setSession _))]
    refine .writes _ _ ⟨⟨rfl, fun _ => rfl⟩, fun h => ⟨?_, ?_⟩⟩ fun u => hC.ret u
    · rw [← (hs h).isSome, hcurrent]
      rfl
    · rintro _ ⟨⟩
      exact halike h

end Services

/-! ## The views -/

section Views

variable {checked : Prop} {config : Config} {request : Request} {identity : Identity}
  {signedIn : Bool}
  {C : {α : Type} → App α → Prop} (hC : ViewRules checked config identity signedIn C)

include hC

theorem requestedPeriod_serves : C (Billing.requestedPeriod request) := by
  show C (if _ then _ else _)
  split
  · exact currentBillingPeriod_serves hC
  · exact hC.ret _

theorem billingDashboard_serves : C (Billing.dashboard config request identity) := by
  refine hC.bind (requestedPeriod_serves hC) fun period => ?_
  refine hC.bind (calculateInvoice_serves hC (some period)) fun invoice => ?_
  refine hC.bind (getInvoices_serves hC 12) fun invoices => ?_
  exact hC.bind (currentBillingPeriod_serves hC) fun _ => render_serves hC _

theorem billingUsage_serves : C (Billing.usage config request identity) := by
  refine hC.bind (requestedPeriod_serves hC) fun period => ?_
  exact hC.bind (calculateInvoice_serves hC (some period)) fun _ => hC.ret _

theorem wantsJson_serves {α : Type} {f : Bool → App α} (h : ∀ json, C (f json)) :
    C ((Users.wantsJson request).bind f) := by
  show C (Prog.bind (if _ then _ else _) f)
  split
  · exact h true
  · rw [Prog.bind_def, Prog.bind_assoc]
    exact readSession_serves hC fun _ _ => h _

theorem userDashboard_serves : C (Users.dashboard config request identity) := by
  refine readSession_serves hC fun s _ => ?_
  split
  · exact flashThen_serves hC _ _ _
  split
  · exact hC.ret _
  refine getCurrentIdentity_serves hC fun current halike => ?_
  refine hC.ofExcept_bind fun userId hown => ?_
  have hown := fun h => (halike h).resolveUserId ▸ hown
  refine hC.bind (getUserById_serves hC hown) fun record => ?_
  refine wantsJson_serves hC fun json => ?_
  split
  · exact hC.ret _
  · exact render_serves hC _

theorem shownRecord_serves (record : Option UserRow) : C (Users.shownRecord record) := by
  cases record with
  | none => exact hC.ret _
  | some row =>
    show C (if _ then _ else _)
    split
    · exact hC.bind (decryptField_serves hC _) fun _ => hC.ret _
    · exact hC.ret _

theorem userDetailsPage_serves : C (Users.userDetailsPage config identity) := by
  refine getCurrentIdentity_serves hC fun current halike => ?_
  refine hC.ofExcept_bind fun userId hown => ?_
  have hown := fun h => (halike h).resolveUserId ▸ hown
  refine hC.bind (getUserById_serves hC hown) fun record => ?_
  exact hC.bind (shownRecord_serves hC record) fun _ => render_serves hC _

theorem saveProfile_serves {current : Identity} (halike : checked → identity.Alike current)
    {userId : String} (own : checked → Users.resolveUserId identity = .ok userId)
    (form : Users.ProfileForm) :
    C (Users.saveProfile config identity.tenant current userId form) := by
  refine hC.bind (encryptField_serves hC _) fun phone => ?_
  refine hC.bind (upsertUserProfile_serves hC own (fun h => (halike h).role) _) fun _ => ?_
  refine hC.bind (keepIdentity_serves hC fun h => (halike h).trans rfl) fun _ => ?_
  exact flashThen_serves hC _ _ _

theorem userDetailsUpdate_serves : C (Users.userDetailsUpdate config request identity) := by
  refine getCurrentIdentity_serves hC fun current halike => ?_
  cases hown : Users.resolveUserId current with
  | error e => exact hC.bind (flash_serves hC _ _) fun _ => hC.raise _
  | ok userId =>
    have hown := fun h => (halike h).resolveUserId ▸ hown
    dsimp only
    generalize Users.ProfileForm.read request = form
    split
    · exact hC.bind (flashErrors_serves hC _) fun _ => hC.ret _
    · exact hC.handle (saveProfile_serves hC halike hown _) fun _ => flashThen_serves hC _ _ _

theorem passwordResetPage_serves : C (Users.passwordResetPage identity) :=
  getCurrentIdentity_serves hC fun _ _ => render_serves hC _

theorem passwordResetUpdate_serves : C (Users.passwordResetUpdate config request identity) := by
  refine getCurrentIdentity_serves hC fun current halike => ?_
  cases hown : Users.resolveUserId current with
  | error e => exact hC.bind (flash_serves hC _ _) fun _ => hC.raise _
  | ok userId =>
    have hown := fun h => (halike h).resolveUserId ▸ hown
    show C (if _ then _ else _)
    split
    · exact flashThen_serves hC _ _ _
    refine readSession_serves hC fun s _ => hC.handle ?_ fun e => ?_
    · refine hC.bind (changePassword_serves hC _ _ _) fun _ => ?_
      refine hC.bind (markPasswordChanged_serves hC hown) fun _ => ?_
      exact flashThen_serves hC _ _ _
    · cases e <;> exact flashThen_serves hC _ _ _

theorem resetPage_serves : C Password.resetPage :=
  readSession_serves hC fun _ _ => render_serves hC _

theorem submitPassword_serves (present : checked → signedIn = true) {current : Identity}
    (halike : checked → identity.Alike current) (accessToken : Json) :
    C (Password.submitPassword config request current accessToken) := by
  refine hC.bind (changePassword_serves hC _ _ _) fun _ => ?_
  refine hC.session fun s _ => .writes _ _ ⟨⟨rfl, fun _ => rfl⟩, fun h =>
    ⟨(present h).symm, ?_⟩⟩ fun _ => ?_
  · rintro _ ⟨⟩
    exact (halike h).trans rfl
  · refine hC.bind (flash_serves hC _ _) fun _ => ?_
    split
    · exact hC.ret _
    split <;> exact hC.ret _

theorem resetSubmit_serves : C (Password.resetSubmit config request) := by
  refine readSession_serves hC fun s hs => ?_
  cases hcurrent : s.identity with
  | none => exact hC.raise _
  | some current =>
    have hpresent : checked → signedIn = true := by
      intro h
      rw [← (hs h).isSome, hcurrent]
      rfl
    show C (if _ then _ else _)
    generalize Password.submitErrors request = errors
    split
    · exact hC.bind (flashErrors_serves hC errors) fun _ => render_serves hC _
    split
    · exact flashThen_serves hC _ _ _
    refine hC.handle (submitPassword_serves hC hpresent (fun h => (hs h).alike current hcurrent)
      _) fun _ => ?_
    exact hC.bind (flash_serves hC _ _) fun _ => render_serves hC _

theorem adminDashboard_serves (admin : checked → identity.role = "admin") (lower : String → String) :
    C (Admin.dashboard config lower request identity) := by
  refine hC.bind (listUsers_serves hC admin _ _ _ _) fun data => ?_
  exact readSession_serves hC fun _ _ => render_serves hC _

theorem manageUsersPage_serves (admin : checked → identity.role = "admin") (lower : String → String) :
    C (Admin.manageUsersPage config lower request identity) := by
  refine hC.bind (listUsers_serves hC admin _ _ _ _) fun data => ?_
  exact readSession_serves hC fun _ _ => render_serves hC _

theorem newUserId_serves : C (Admin.newUserId request) := by
  show C (if _ then _ else _)
  split
  · exact hC.bind (hC.perform ⟨trivial, rfl, rfl⟩ fun _ => ⟨trivial, rfl⟩) fun _ => hC.ret _
  · exact hC.ret _

theorem createUser_serves (admin : checked → identity.role = "admin") :
    C (Admin.createUser config request identity) := by
  unfold Admin.createUser
  refine hC.bind (newUserId_serves hC) fun userId => ?_
  generalize herrors : (Admin.NewUser.read request).errors = errors
  generalize Admin.NewUser.read request = user at herrors
  split
  · exact hC.bind (flashErrors_serves hC errors) fun _ => hC.ret _
  next hnone =>
    have hrole := role_of_errors (herrors.trans (not_not.mp hnone))
    refine hC.handle ?_ fun _ => flashThen_serves hC _ _ _
    refine hC.bind (hC.account admin hrole _ _) fun created => ?_
    refine hC.bind (createUserRecord_serves hC admin hrole _ _ _) fun _ => ?_
    exact readSession_serves hC fun _ _ => render_serves hC _

theorem deleteUser_serves (admin : checked → identity.role = "admin") (userId : String) :
    C (Admin.deleteUser config request identity userId) := by
  refine hC.bind (hC.handle ?_ fun _ => flash_serves hC _ _) fun _ => hC.ret _
  refine hC.bind (deleteCognitoUser_serves hC admin _) fun _ => ?_
  exact hC.bind (deleteUserRecord_serves hC admin _ _) fun _ => flash_serves hC _ _

theorem toggleUser_serves (admin : checked → identity.role = "admin") (userId : String) :
    C (Admin.toggleUser config request identity userId) := by
  refine hC.bind (hC.handle ?_ fun _ => flash_serves hC _ _) fun _ => hC.ret _
  refine hC.bind (cognitoSetEnabled_serves hC admin _ _) fun _ => ?_
  exact hC.bind (setUserEnabled_serves hC admin _ _) fun _ => flash_serves hC _ _

theorem view_serves (lower : String → String) (route : Route)
    (admin : checked → route.isAdmin = true → identity.role = "admin") :
    C (route.view config lower request identity) := by
  cases route with
  | userDashboard => exact userDashboard_serves hC
  | userDetailsPage => exact userDetailsPage_serves hC
  | userDetailsUpdate => exact userDetailsUpdate_serves hC
  | passwordResetPage => exact passwordResetPage_serves hC
  | passwordResetUpdate => exact passwordResetUpdate_serves hC
  | resetPage => exact resetPage_serves hC
  | resetSubmit => exact resetSubmit_serves hC
  | billingDashboard => exact billingDashboard_serves hC
  | billingUsage => exact billingUsage_serves hC
  | billingInvoices => exact hC.bind (getInvoices_serves hC 12) fun _ => hC.ret _
  | adminDashboard => exact adminDashboard_serves hC (admin · rfl) lower
  | manageUsersPage => exact manageUsersPage_serves hC (admin · rfl) lower
  | createUser => exact createUser_serves hC (admin · rfl)
  | deleteUser userId => exact deleteUser_serves hC (admin · rfl) userId
  | toggleUser userId => exact toggleUser_serves hC (admin · rfl) userId

end Views

/-! ## The two walks -/

section Walks

variable {config : Config} {request : Request} {identity : Identity} {signedIn : Bool}
  {C : {α : Type} → App α → Prop}

/-- Every view entered with an identity stays with the identity's tenant. -/
theorem view_closed (hC : Closed identity.tenant C) (lower : String → String) (route : Route) :
    C (route.view config lower request identity) :=
  @view_serves False config request identity false C hC.rules lower route False.elim

/-- Granted calls, whatever is done with their answers. -/
theorem Serves.of_calls (hC : Serves config identity signedIn C) {α : Type} {p : App α} (hp : p.Calls (AppOp.Granted identity)) :
    C p := by
  induction p with
  | ret a => exact hC.ret a
  | raise e => exact hC.raise e
  | call op next ih =>
    -- the answer of the call, exceptions included, as a value
    have hanswer : C (((TenantSaas.perform op).bind fun a => .ret (Except.ok a)).handle fun e =>
        .ret (.error e) : App (Except PyError op.Res)) :=
      hC.handle (hC.bind (hC.perform hp.1) fun _ => hC.ret _) fun _ => hC.ret _
    have hbind := hC.bind hanswer fun r => ih r (hp.2 r)
    convert hbind using 1
    refine congrArg (Prog.call op) (funext fun r => ?_)
    cases r <;> rfl

/-- Every view keeps to the authority of the identity it was entered with, and so does the metering
after it. -/
theorem serveAs_serves (hC : Serves config identity signedIn C) (lower : String → String)
    (request : Request) (route : Route)
    (admin : route.isAdmin = true → identity.role = "admin") :
    C (serveAs config lower request route identity) := by
  have hview := @view_serves True config request identity signedIn C hC.rules lower route
    fun _ => admin
  refine hC.bind (hC.handle hview fun _ => hC.ret _) fun response => ?_
  refine hC.bind (hC.of_calls ?_) fun _ => hC.ret _
  exact recordApiUsage_calls config identity _ _ _ _ ⟨trivial, rfl, rfl, rfl⟩
    ⟨trivial, rfl, rfl, rfl⟩ fun _ _ => ⟨⟨trivial, rfl, rfl, rfl⟩, ⟨rfl, rfl, rfl, rfl⟩⟩

end Walks

end TenantSaas
