import TenantSaas.Profile.RowPuts
import TenantSaas.Routes.Users

/-!
# Saving a profile

What `user_details_update` leaves when it has saved, and that it leaves every row when it has
not.
-/

namespace TenantSaas

open Directory

/-- The redirects of a profile that was saved. -/
def Response.saved : Response → Bool
  | redirect .adminDashboard | redirect .userDashboard => true
  | _ => false

section Saves

variable {config : Config} {world : World} {request : Request} {identity entered : Identity}
  {tenant userId : String} {s t : AppState}

theorem resolveUserId_eq_ok : Users.resolveUserId identity = .ok userId ↔
    pyOr identity.userId identity.username = some userId ∧ userId ≠ "" := by
  unfold Users.resolveUserId
  cases pyOr identity.userId identity.username with
  | none => simp
  | some id =>
    by_cases hid : id = ""
    · simp only [hid, if_true, reduceCtorEq, false_iff, not_and, Option.some.injEq]
      intro heq
      subst heq
      exact fun hne => hne rfl
    · simp only [hid, if_false, Except.ok.injEq, Option.some.injEq]
      constructor
      · intro heq
        subst heq
        exact ⟨rfl, hid⟩
      · exact And.left

theorem encryptField_keepsRows (plaintext : String) :
    (encryptField config plaintext).Calls fun op => op.keepsRows = true := by
  unfold encryptField
  split
  · trivial
  split
  · trivial
  · exact Prog.Calls.bind (perform_calls (by rfl)) fun _ => trivial

theorem run_encryptField_keyedRows {plaintext : String} {r : Except PyError String}
    (h : world.run (encryptField config plaintext) s = (r, t)) (tenant : String) :
    keyedRows config tenant t = keyedRows config tenant s := by
  have hkept : keyedRows config tenant (world.run (encryptField config plaintext) s).2 =
      keyedRows config tenant s := run_keyedRows (encryptField_keepsRows plaintext) s
  rw [h] at hkept
  exact hkept

/-- The session of a profile that was saved. -/
theorem run_keepIdentity (identity : Identity) (s : AppState) : ∃ tick,
    world.run (Users.keepIdentity identity) s = (.ok (), { s with
      session := { s.session with identity := s.session.identity.map fun _ => identity }
      tick := tick }) := by
  unfold Users.keepIdentity
  rw [World.run_session_bind]
  cases hidentity : s.session.identity with
  | none =>
    refine ⟨s.tick + 1, ?_⟩
    cases s with
    | mk tick rds demoDb pool demoPool aggregate queue demoEvents session =>
      cases session
      cases hidentity
      rfl
  | some old => exact ⟨s.tick + 2, rfl⟩

/-- A profile is encrypted and put, and the session takes note. -/
theorem run_saveProfile_ok {identity : Identity} {userId phone : String}
    {form : Users.ProfileForm} {u v : AppState}
    (hphone : world.run (encryptField config form.phone) s = (.ok phone, u))
    (hput : world.run (upsertUserProfile config tenant userId (form.fields phone) identity.role) u =
      (.ok (), v)) :
    ∃ response session tick, response.saved = true ∧
      world.run (Users.saveProfile config tenant identity userId form) s =
        (.ok response, { v with session := session, tick := tick }) ∧
      session.identity = v.session.identity.map fun _ =>
        { identity with profileComplete := form.phone != "" && form.department != "" } := by
  unfold Users.saveProfile
  rw [World.run_bind_ok hphone, World.run_bind_ok hput]
  obtain ⟨tick, hkeep⟩ := @run_keepIdentity world
    { identity with profileComplete := form.phone != "" && form.department != "" } v
  rw [World.run_bind_ok hkeep, World.run_bind_ok (run_flash _ _ _)]
  by_cases hadmin : identity.role = "admin"
  · rw [if_pos hadmin]
    exact ⟨_, _, _, rfl, rfl, rfl⟩
  · rw [if_neg hadmin]
    exact ⟨_, _, _, rfl, rfl, rfl⟩

/-- A profile that is not saved leaves every row. -/
theorem run_saveProfile_error {identity : Identity} {userId : String} {form : Users.ProfileForm}
    {e : PyError}
    (h : world.run (Users.saveProfile config tenant identity userId form) s = (.error e, t))
    (tenant' : String) : keyedRows config tenant' t = keyedRows config tenant' s := by
  rcases hphone : world.run (encryptField config form.phone) s with ⟨e' | phone, u⟩
  · unfold Users.saveProfile at h
    rw [World.run_bind_error hphone] at h
    cases h
    exact run_encryptField_keyedRows hphone tenant'
  have hencrypted := run_encryptField_keyedRows hphone tenant'
  rcases hput : world.run
    (upsertUserProfile config tenant userId (form.fields phone) identity.role) u with ⟨e' | _, v⟩
  · unfold Users.saveProfile at h
    rw [World.run_bind_ok hphone, World.run_bind_error hput] at h
    cases h
    refine Eq.trans ?_ hencrypted
    by_cases htenant : tenant' = tenant
    · rw [htenant]
      exact keyedRows_of_upsert_error hput
    · have hothers := @upsert_others config world tenant tenant' userId identity.role
        (form.fields phone) htenant u
      rw [hput] at hothers
      exact hothers
  · obtain ⟨response, session, tick, -, hrun, -⟩ := run_saveProfile_ok hphone hput
    rw [hrun] at h
    cases h

theorem run_getCurrentIdentity (entered : Identity) (s : AppState) :
    world.run (Users.getCurrentIdentity entered) s =
      (.ok (s.session.identity.getD entered), { s with tick := s.tick + 1 }) := rfl

/-- What a save that goes through has done. -/
structure SavedProfile (config : Config) (world : World) (request : Request) (entered : Identity)
    (s t : AppState) (userId phone : String) (u v : AppState) : Prop where
  resolved : Users.resolveUserId (s.session.identity.getD entered) = .ok userId
  valid : (Users.ProfileForm.read request).errors = []
  encrypted : world.run (encryptField config (Users.ProfileForm.read request).phone)
    { s with tick := s.tick + 1 } = (.ok phone, u)
  put : world.run (upsertUserProfile config entered.tenant userId
    ((Users.ProfileForm.read request).fields phone) (s.session.identity.getD entered).role) u =
      (.ok (), v)
  after : ∃ session tick, t = { v with session := session, tick := tick } ∧
    session.identity = v.session.identity.map fun _ =>
      { s.session.identity.getD entered with
        profileComplete := (Users.ProfileForm.read request).phone != "" &&
          (Users.ProfileForm.read request).department != "" }

theorem SavedProfile.rows_before {userId phone : String} {u v : AppState}
    (h : SavedProfile config world request entered s t userId phone u v) (tenant : String) :
    keyedRows config tenant u = keyedRows config tenant s :=
  run_encryptField_keyedRows h.encrypted tenant

/-- The name of the form becomes the username of the row. -/
theorem setAll_fields_username (form : Users.ProfileForm) (phone : String) (row : UserRow) :
    (row.setAll (editable (form.fields phone))).username = form.name := rfl

/-- A save goes through, or every row is as before. -/
theorem run_userDetailsUpdate {r : Except PyError Response}
    (h : world.run (Users.userDetailsUpdate config request entered) s = (r, t)) :
    (∃ response, r = .ok response ∧ response.saved = true ∧ ∃ userId phone u v,
      SavedProfile config world request entered s t userId phone u v) ∨
    (∀ response, r = .ok response → response.saved = false) ∧
      ∀ tenant, keyedRows config tenant t = keyedRows config tenant s := by
  unfold Users.userDetailsUpdate at h
  rw [World.run_bind_ok (run_getCurrentIdentity entered s)] at h
  cases hid : Users.resolveUserId (s.session.identity.getD entered) with
  | error e =>
    simp only [hid] at h
    cases h
    exact .inr ⟨(fun _ hr => by cases hr), fun _ => rfl⟩
  | ok userId =>
    simp only [hid] at h
    by_cases herrors : (Users.ProfileForm.read request).errors = []
    swap
    · rw [if_pos herrors] at h
      obtain ⟨flashes, tick, hflashed⟩ := @run_flashErrors world
        (Users.ProfileForm.read request).errors { s with tick := s.tick + 1 }
      rw [World.run_bind_ok hflashed] at h
      cases h
      exact .inr ⟨fun _ hr => (by cases hr; rfl), fun _ => rfl⟩
    rw [if_neg (by simpa using herrors)] at h
    rcases hsave : world.run (Users.saveProfile config entered.tenant
      (s.session.identity.getD entered) userId (Users.ProfileForm.read request))
      { s with tick := s.tick + 1 } with ⟨e | response, u⟩
    · rw [World.run_tryCatch_error hsave] at h
      have hkept := run_saveProfile_error hsave
      cases h
      exact .inr ⟨fun _ hr => (by cases hr; rfl), hkept⟩
    · rw [World.run_tryCatch_ok hsave] at h
      cases h
      left
      obtain ⟨phone, v, hphone, hrest⟩ := World.run_bind_eq_ok.mp hsave
      obtain ⟨_, w, hput, -⟩ := World.run_bind_eq_ok.mp hrest
      obtain ⟨response', session, tick, hsaved, hrun, hidentity⟩ := run_saveProfile_ok hphone hput
      rw [hrun] at hsave
      cases hsave
      exact ⟨response, rfl, hsaved, userId, phone, v, w, hid, herrors, hphone, hput, _, _, rfl,
        hidentity⟩

end Saves

end TenantSaas
