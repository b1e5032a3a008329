import TenantSaas.Profile.RowPuts

/-!
# What a saved profile may touch

`upsert_user_profile` for any dictionary of fields: which columns of which row it can change,
and what becomes of the same save made twice.
-/

namespace TenantSaas

namespace UserRow

/-- The value of an editable column. -/
def column (row : UserRow) (name : String) : Option String :=
  if name = "username" then some row.username
  else if name = "email" then some row.email
  else if name = "phone" then row.phone
  else if name = "department" then row.department
  else if name = "profile_image" then row.profileImage
  else none

/-- Only editable columns with a key in `keys` differ. -/
structure Keeps (keys : List String) (old new : UserRow) : Prop where
  userId : new.userId = old.userId
  role : new.role = old.role
  enabled : new.enabled = old.enabled
  firstLogin : new.firstLogin = old.firstLogin
  passwordLastChanged : new.passwordLastChanged = old.passwordLastChanged
  columns : ∀ name ∈ editableProfileFields, name ∉ keys → new.column name = old.column name

section Columns

variable {old new third row : UserRow} {keys : List String} {fields : List (String × String)}

theorem Keeps.refl (row : UserRow) : Keeps keys row row :=
  ⟨rfl, rfl, rfl, rfl, rfl, fun _ _ _ => rfl⟩

theorem Keeps.trans (h : Keeps keys old new) (h' : Keeps keys new third) :
    Keeps keys old third where
  userId := h'.userId.trans h.userId
  role := h'.role.trans h.role
  enabled := h'.enabled.trans h.enabled
  firstLogin := h'.firstLogin.trans h.firstLogin
  passwordLastChanged := h'.passwordLastChanged.trans h.passwordLastChanged
  columns name hname hkey := (h'.columns name hname hkey).trans (h.columns name hname hkey)

/-- Rows that keep everything and agree on the editable columns are one row. -/
theorem Keeps.eq (h : Keeps keys old new)
    (hcolumns : ∀ name ∈ editableProfileFields, new.column name = old.column name) :
    new = old := by
  have husername := hcolumns "username" (by decide)
  have hemail := hcolumns "email" (by decide)
  have hphone := hcolumns "phone" (by decide)
  have hdepartment := hcolumns "department" (by decide)
  have himage := hcolumns "profile_image" (by decide)
  obtain ⟨huserId, hrole, henabled, hfirst, hpassword, -⟩ := h
  cases old
  cases new
  rw [mk.injEq]
  exact ⟨huserId, Option.some.inj husername, Option.some.inj hemail, hrole, hphone, hdepartment,
    himage, henabled, hpassword, hfirst⟩

theorem mem_editableProfileFields {name : String} : name ∈ editableProfileFields ↔
    name = "username" ∨ name = "email" ∨ name = "phone" ∨ name = "department" ∨
      name = "profile_image" := by
  simp [editableProfileFields]

theorem set_of_not_editable (row : UserRow) {key : String} (hkey : key ∉ editableProfileFields)
    (value : String) : row.set key value = row := by
  rw [mem_editableProfileFields] at hkey
  simp only [not_or] at hkey
  obtain ⟨husername, hemail, hphone, hdepartment, himage⟩ := hkey
  rw [UserRow.set, if_neg husername, if_neg hemail, if_neg hphone, if_neg hdepartment,
    if_neg himage]

/-- An assignment changes its own column. -/
theorem column_set (row : UserRow) {name : String} (hname : name ∈ editableProfileFields)
    (key value : String) :
    (row.set key value).column name = if name = key then some value else row.column name := by
  by_cases hkey : key ∈ editableProfileFields
  · rw [mem_editableProfileFields] at hname hkey
    rcases hname with rfl | rfl | rfl | rfl | rfl <;>
      rcases hkey with rfl | rfl | rfl | rfl | rfl <;> rfl
  · rw [set_of_not_editable row hkey, if_neg]
    intro heq
    subst heq
    exact hkey hname

theorem keeps_set (row : UserRow) {key : String} (hkey : key ∈ keys) (value : String) :
    Keeps keys row (row.set key value) := by
  have hcolumns : ∀ name ∈ editableProfileFields, name ∉ keys →
      (row.set key value).column name = row.column name := by
    intro name hname hnot
    rw [column_set row hname, if_neg]
    intro heq
    subst heq
    exact hnot hkey
  refine ⟨set_userId row key value, ?_, set_enabled row key value, ?_, ?_, hcolumns⟩
  all_goals
    unfold UserRow.set
    split_ifs <;> rfl

theorem keeps_setAll (row : UserRow) (h : ∀ field ∈ fields, field.1 ∈ keys) :
    Keeps keys row (row.setAll fields) := by
  induction fields generalizing row with
  | nil => exact .refl row
  | cons field fields ih =>
    rw [List.forall_mem_cons] at h
    exact (keeps_set row h.1 field.2).trans (ih (row.set field.1 field.2) h.2)

/-- The value that a list of fields assigns to a column last. -/
def assigned (name : String) : List (String × String) → Option String
  | [] => none
  | field :: fields => (assigned name fields).or (if name = field.1 then some field.2 else none)

theorem column_setAll (row : UserRow) {name : String} (hname : name ∈ editableProfileFields) :
    (row.setAll fields).column name = (assigned name fields).or (row.column name) := by
  induction fields generalizing row with
  | nil => rfl
  | cons field fields ih =>
    rw [setAll, ih, column_set row hname, assigned]
    cases assigned name fields with
    | some value => rfl
    | none => by_cases hkey : name = field.1 <;> simp [hkey]

/-- Assigning the same values again changes nothing. -/
theorem setAll_setAll (row : UserRow) (fields : List (String × String)) :
    (row.setAll fields).setAll fields = row.setAll fields := by
  have hkeys : ∀ field ∈ fields, field.1 ∈ fields.map Prod.fst := fun _ h => List.mem_map_of_mem h
  apply (keeps_setAll (row.setAll fields) hkeys).eq
  intro name hname
  rw [column_setAll _ hname, column_setAll _ hname]
  cases assigned name fields <;> rfl

end Columns

end UserRow

/-! ## What a save leaves alone -/

section Confined

variable (config : Config) (world : World) (tenant userId role : String) (keys : List String)

/-- A call of `upsert_user_profile` with fields under `keys`, from `s`, that ended in `t`. -/
structure Confined (s : AppState) (result : Except PyError Unit) (t : AppState) : Prop where
  otherTenants : ∀ tenant', tenant' ≠ tenant →
    keyedRows config tenant' t = keyedRows config tenant' s
  otherUsers :
    ((keyedRows config tenant t).filter fun entry => !sameText config world entry.1 userId) =
      (keyedRows config tenant s).filter fun entry => !sameText config world entry.1 userId
  existing : ∀ row, storedRow config world tenant userId s = some row →
    (∃ row', storedRow config world tenant userId t = some row' ∧ row.Keeps keys row') ∧
      (keyedRows config tenant t).map Prod.fst = (keyedRows config tenant s).map Prod.fst
  created : storedRow config world tenant userId s = none → result = .ok () →
    ∃ row', keyedRows config tenant t = keyedRows config tenant s ++ [(userId, row')] ∧
      row'.userId = userId ∧ row'.role = role ∧ row'.enabled = true
  raised : ∀ e, result = .error e →
    ∀ tenant', keyedRows config tenant' t = keyedRows config tenant' s

end Confined

section Saves

variable {config : Config} {world : World} {tenant userId role : String} {keys : List String}
  {fields : List (String × String)} {s t : AppState}

theorem editable_keys (h : ∀ field ∈ fields, field.1 ∈ keys) :
    ∀ field ∈ editable fields, field.1 ∈ keys :=
  fun field hfield => h field (List.mem_filter.mp hfield).1

theorem confined_of_kept {e : PyError}
    (h : ∀ tenant', keyedRows config tenant' t = keyedRows config tenant' s) :
    Confined config world tenant userId role keys s (.error e) t where
  otherTenants tenant' _ := h tenant'
  otherUsers := by rw [h tenant]
  existing row hrow :=
    ⟨⟨row, by rw [storedRow_congr (h tenant), hrow], .refl row⟩, by rw [h tenant]⟩
  created _ hok := by cases hok
  raised _ _ := h

theorem filter_dictSet {α : Type} (key : String) (value : α) (entries : List (String × α)) :
    ((dictSet key value entries).filter fun entry => !(entry.1 == key)) =
      entries.filter fun entry => !(entry.1 == key) := by
  induction entries with
  | nil => simp [dictSet]
  | cons entry entries ih =>
    unfold dictSet
    by_cases hkey : entry.1 = key
    · simp [hkey]
    · rw [if_neg hkey, List.filter_cons, List.filter_cons, ih]

theorem keys_dictSet {α : Type} {key : String} {value old : α} {entries : List (String × α)}
    (h : entries.lookup key = some old) :
    (dictSet key value entries).map Prod.fst = entries.map Prod.fst := by
  induction entries with
  | nil => cases h
  | cons entry entries ih =>
    rw [lookup_entry] at h
    unfold dictSet
    by_cases hkey : entry.1 = key
    · rw [if_pos hkey, List.map_cons, List.map_cons, hkey]
    · rw [if_neg (Ne.symm hkey)] at h
      rw [if_neg hkey, List.map_cons, List.map_cons, ih h]

/-- The rows of the other tenants stay. -/
theorem upsert_keepsOthers {result : Except PyError Unit}
    (h : world.run (upsertUserProfile config tenant userId fields role) s = (result, t)) :
    ∀ tenant', tenant' ≠ tenant → keyedRows config tenant' t = keyedRows config tenant' s := by
  intro tenant' htenant
  have hkept := @upsert_others config world tenant tenant' userId role fields htenant s
  rwa [h] at hkept

/-- A save into `_demo_db`. -/
theorem confined_demo (demo : config.demoMode = true) (hkeys : ∀ field ∈ fields, field.1 ∈ keys)
    (h : world.run (upsertUserProfile config tenant userId fields role) s = (.ok (), t)) :
    Confined config world tenant userId role keys s (.ok ()) t := by
  have hothers := upsert_keepsOthers h
  rw [upsert_demo demo] at h
  obtain rfl := (Prod.mk.inj h).2
  have hsame : ∀ a b, sameText config world a b = (a == b) := fun a b => by
    rw [sameText, if_pos demo]
  refine ⟨hothers, ?_, ?_, ?_, fun e he => by cases he⟩
  all_goals
    clear h hothers
    simp only [keyedRows_demo demo, storedRow_demo demo, lookup_dictSet, if_true,
      Option.getD_some, hsame]
    generalize (s.demoDb.lookup tenant).getD [] = rows
  · exact filter_dictSet userId _ rows
  · intro row hrow
    rw [hrow]
    exact ⟨⟨_, rfl, row.keeps_setAll (editable_keys hkeys)⟩, keys_dictSet hrow⟩
  · intro hnone _
    rw [hnone]
    refine ⟨_, dictSet_of_not_found _ hnone, ?_⟩
    exact ⟨setAll_userId _ _, (UserRow.keeps_setAll _ (editable_keys hkeys)).role,
      setAll_enabled _ _⟩

theorem filter_update {α : Type} (p : String → Bool) (f : α → α) (entries : List (String × α)) :
    ((entries.map fun entry => if p entry.1 then (entry.1, f entry.2) else entry).filter
        fun entry => !p entry.1) =
      entries.filter fun entry => !p entry.1 := by
  induction entries with
  | nil => rfl
  | cons entry entries ih =>
    rw [List.map_cons, List.filter_cons, List.filter_cons, ih]
    by_cases hp : p entry.1 = true <;> simp [hp]

theorem keys_update {α : Type} (p : String → Bool) (f : α → α) (entries : List (String × α)) :
    (entries.map fun entry => if p entry.1 then (entry.1, f entry.2) else entry).map Prod.fst =
      entries.map Prod.fst := by
  rw [List.map_map]
  refine List.map_congr_left fun entry _ => ?_
  by_cases hp : p entry.1 = true <;> simp [hp]

theorem keyedRows_updated (demo : config.demoMode = false) {table : TenantTable}
    (htable : tableForTenant tenant = .ok table)
    (hrows : t.rds.committed table = (s.rds.committed table).map fun row =>
      if world.mysql.eq row.userId userId then row.setAll (editable fields) else row) :
    keyedRows config tenant t = (keyedRows config tenant s).map fun entry =>
      if world.mysql.eq entry.1 userId then (entry.1, entry.2.setAll (editable fields))
      else entry := by
  rw [keyedRows_real demo htable, keyedRows_real demo htable, hrows, List.map_map, List.map_map]
  refine List.map_congr_left fun row _ => ?_
  simp only [Function.comp_apply]
  split
  · rw [setAll_userId]
  · rfl

theorem keyedRows_inserted (demo : config.demoMode = false) {table : TenantTable}
    (htable : tableForTenant tenant = .ok table)
    (hrows : t.rds.committed table = s.rds.committed table ++
      [(UserRow.withDefaults userId userId "" role).setAll (editable fields)]) :
    keyedRows config tenant t = keyedRows config tenant s ++
      [(userId, (UserRow.withDefaults userId userId "" role).setAll (editable fields))] := by
  rw [keyedRows_real demo htable, keyedRows_real demo htable, hrows, List.map_append,
    List.map_singleton, setAll_userId]
  rfl

/-- A save that committed. -/
theorem confined_real (demo : config.demoMode = false)
    (hkeys : ∀ field ∈ fields, field.1 ∈ keys)
    (h : world.run (upsertUserProfile config tenant userId fields role) s = (.ok (), t)) :
    Confined config world tenant userId role keys s (.ok ()) t := by
  have hothers := upsert_keepsOthers h
  have hsame : ∀ a b, sameText config world a b = world.mysql.eq a b := fun a b => by
    rw [sameText, demo, if_neg Bool.false_ne_true]
  cases htable : tableForTenant tenant with
  | error e =>
    unfold upsertUserProfile at h
    rw [demo, htable] at h
    cases h
  | ok table =>
    have hkeeps := fun row : UserRow => row.keeps_setAll (editable_keys hkeys)
    rcases upsert_real demo htable h with ⟨⟨row, hrow, hfound⟩, hrows⟩ | ⟨hnone, hrows⟩
    · -- the row that is there was updated
      have hentries := keyedRows_updated demo htable hrows
      refine ⟨hothers, ?_, fun old hold => ⟨?_, ?_⟩, fun hnone => ?_, fun e he => by cases he⟩
      · simp only [hsame, hentries]
        exact filter_update (fun key => world.mysql.eq key userId)
          (fun row : UserRow => row.setAll (editable fields)) _
      · rw [storedRow_real demo htable] at hold ⊢
        rw [hrows, find?_update fun row => setAll_userId row _, hold]
        exact ⟨_, rfl, hkeeps old⟩
      · rw [hentries]
        exact keys_update (fun key => world.mysql.eq key userId)
          (fun row : UserRow => row.setAll (editable fields)) _
      · rw [storedRow_real demo htable, List.find?_eq_none] at hnone
        exact absurd hfound (hnone row hrow)
    · -- a row was inserted
      have hentries := keyedRows_inserted demo htable hrows
      refine ⟨hothers, ?_, fun old hold => ?_, fun _ _ => ⟨_, hentries, ?_⟩,
        fun e he => by cases he⟩
      · simp [hentries, hsame, MySql.eq]
      · rw [storedRow_real demo htable] at hold
        have hsome := List.find?_some hold
        rw [hnone old (List.mem_of_find?_eq_some hold)] at hsome
        cases hsome
      · exact ⟨setAll_userId _ _, (hkeeps _).role, setAll_enabled _ _⟩

theorem upsert_confined (hkeys : ∀ field ∈ fields, field.1 ∈ keys)
    {result : Except PyError Unit}
    (h : world.run (upsertUserProfile config tenant userId fields role) s = (result, t)) :
    Confined config world tenant userId role keys s result t := by
  cases result with
  | error e =>
    refine confined_of_kept fun tenant' => ?_
    by_cases htenant : tenant' = tenant
    · rw [htenant]
      exact keyedRows_of_upsert_error h
    · exact upsert_keepsOthers h tenant' htenant
  | ok _ =>
    cases demo : config.demoMode with
    | true => exact confined_demo demo hkeys h
    | false => exact confined_real demo hkeys h

end Saves

/-- A save changes the columns it is given of the user's row, or inserts that row, and nothing
else, whatever calls fail; a call that fails, `COMMIT` too, has had no effect.  The values are of
any type; `text` is what the store keeps of one, and values kept as `NULL` are left out. -/
theorem upsertUserProfile_confined {V : Type} (text : V → String) (config : Config)
    (world : World) (tenant userId role : String) (fields : List (String × V)) (s : AppState) :
    let save := upsertUserProfile config tenant userId
      (fields.map fun field => (field.1, text field.2)) role
    Confined config world tenant userId role (fields.map Prod.fst) s (world.run save s).1
      (world.run save s).2 := by
  intro save
  refine upsert_confined (fun field hfield => ?_) rfl
  obtain ⟨source, hsource, rfl⟩ := List.mem_map.mp hfield
  exact List.mem_map_of_mem (f := Prod.fst) hsource

/-! ## The same save made twice -/

/-- The database answers the `SELECT` and the `COMMIT` of a transaction begun at a tick. -/
def Answered (world : World) (tenant userId : String) (tick : Nat) : Prop :=
  ∀ table, tableForTenant tenant = .ok table →
    world.fault tick .connect = none ∧
      world.fault (tick + 1) (.selectForUpdate table userId) = none ∧
      world.fault (tick + 2) .commit = none

section Twice

variable {config : Config} {world : World} {tenant userId role : String} {table : TenantTable}
  {fields : List (String × String)} {s t u : AppState}

theorem apply_updateProfile_count {mysql : MySql} {rows rows' : Table} {count : Nat}
    (h : mysql.apply rows (.updateProfile userId fields) = .ok (count, rows')) :
    count = rows.countP fun row =>
      mysql.eq row.userId userId && row.setAll fields != row := by
  simp only [MySql.apply] at h
  split at h
  · cases h
  split at h
  · cases h
    rfl
  · cases h

theorem exists_row_of_found {row : UserRow} (hrow : row ∈ s.rds.committed table)
    (hsame : world.mysql.eq row.userId userId = true) :
    ∃ old, ((s.rds.committed table).find? fun row => world.mysql.eq row.userId userId) =
      some old :=
  Option.isSome_iff_exists.mp (List.find?_isSome.mpr ⟨row, hrow, hsame⟩)

/-- The row of the user is there, and the fields have something for it: a save that returns
has changed it. -/
theorem changes_of_upsert (demo : config.demoMode = false)
    (htable : tableForTenant tenant = .ok table)
    (hrow : ∃ row ∈ s.rds.committed table, world.mysql.eq row.userId userId = true)
    (hfields : editable fields ≠ [])
    (h : world.run (upsertUserProfile config tenant userId fields role) s = (.ok (), t)) :
    ∃ row ∈ s.rds.committed table, world.mysql.eq row.userId userId = true ∧
      row.setAll (editable fields) ≠ row := by
  obtain ⟨row, hmem, hsame⟩ := hrow
  rcases upsert_writes demo htable h with ⟨_, -, ⟨hnone, -⟩ | ⟨-, count, hcount, happly⟩⟩ |
    ⟨hfound, -⟩
  · exact absurd hnone hfields
  · rw [apply_updateProfile_count happly] at hcount
    obtain ⟨changed, hchanged, hdiffers⟩ := List.countP_pos_iff.mp (Nat.pos_of_ne_zero hcount)
    rw [Bool.and_eq_true, bne_iff_ne] at hdiffers
    exact ⟨changed, hchanged, hdiffers.1, hdiffers.2⟩
  · exact absurd hsame (List.find?_eq_none.mp hfound row hmem)

/-- With nothing to update, a save only looks for the row. -/
theorem run_upsert_nothing (demo : config.demoMode = false)
    (htable : tableForTenant tenant = .ok table)
    (hrow : ∃ row ∈ s.rds.committed table, world.mysql.eq row.userId userId = true)
    (hfields : editable fields = []) :
    (∃ t, world.run (upsertUserProfile config tenant userId fields role) s = (.ok (), t) ∧
      t.rds.committed = s.rds.committed) ↔ Answered world tenant userId s.tick := by
  obtain ⟨row, hmem, hsame⟩ := hrow
  obtain ⟨old, hold⟩ := exists_row_of_found hmem hsame
  unfold upsertUserProfile
  rw [demo, htable, hfields]
  constructor
  · rintro ⟨t, h, -⟩ table' htable'
    rw [htable] at htable'
    cases htable'
    obtain ⟨hconnect, u, hbody, hcommit, -⟩ := run_transaction_eq_ok.mp h
    obtain ⟨existing, v, hselect, hret⟩ := World.run_bind_eq_ok.mp hbody
    rw [World.run_perform] at hselect
    obtain ⟨hfault, hanswer, rfl⟩ := World.answer_of_exec hselect
    obtain rfl := Except.ok.inj hanswer
    simp only [AppState.connected_working, hold, Option.map_some, if_true] at hret
    cases hret
    exact ⟨hconnect, hfault, hcommit⟩
  · intro h
    obtain ⟨hconnect, hselect, hcommit⟩ := h table htable
    have hfound : world.run (perform (.selectForUpdate table userId)) s.connected =
        (.ok (some old.userId), { s.connected with tick := s.tick + 2 }) := by
      have hfailure : world.failure s.connected (.selectForUpdate table userId) = none := hselect
      rw [World.run_perform, World.exec_of_answer hfailure]
      simp only [World.answer, AppState.connected_working, hold, Option.map_some]
      rfl
    refine ⟨_, run_transaction_eq_ok.mpr ⟨hconnect, { s.connected with tick := s.tick + 2 }, ?_,
      hcommit, rfl⟩, rfl⟩
    exact World.run_bind_ok hfound

/-- After a save the user has a row, and it has the values of the fields. -/
theorem rows_of_upsert (demo : config.demoMode = false)
    (htable : tableForTenant tenant = .ok table)
    (h : world.run (upsertUserProfile config tenant userId fields role) s = (.ok (), t)) :
    (∃ row ∈ t.rds.committed table, world.mysql.eq row.userId userId = true) ∧
      ∀ row ∈ t.rds.committed table, world.mysql.eq row.userId userId = true →
        row.setAll (editable fields) = row := by
  rcases upsert_real demo htable h with ⟨⟨old, hold, hsame⟩, hrows⟩ | ⟨hnone, hrows⟩
  · rw [hrows]
    constructor
    · refine ⟨old.setAll (editable fields), List.mem_map.mpr ⟨old, hold, if_pos hsame⟩, ?_⟩
      rw [setAll_userId]
      exact hsame
    · intro row hrow heq
      obtain ⟨source, -, rfl⟩ := List.mem_map.mp hrow
      by_cases hsource : world.mysql.eq source.userId userId = true
      · rw [if_pos hsource]
        exact UserRow.setAll_setAll _ _
      · rw [if_neg hsource] at heq
        exact absurd heq hsource
  · rw [hrows]
    constructor
    · refine ⟨_, List.mem_append_right _ (List.mem_singleton_self _), ?_⟩
      rw [setAll_userId]
      exact beq_self_eq_true _
    · intro row hrow heq
      rcases List.mem_append.mp hrow with hold | hnew
      · rw [hnone row hold] at heq
        cases heq
      · obtain rfl := List.mem_singleton.mp hnew
        exact UserRow.setAll_setAll _ _

end Twice

/-- A save that succeeded on RDS succeeds again and leaves the tables exactly when it has no
editable field, and the database answers. -/
theorem saved_again_iff (config : Config) (world : World) (tenant userId role : String)
    (fields : List (String × String)) (s t u : AppState) (rds : config.demoMode = false)
    (saved : world.run (upsertUserProfile config tenant userId fields role) s = (.ok (), t))
    (kept : u.rds.committed = t.rds.committed) :
    (∃ v, world.run (upsertUserProfile config tenant userId fields role) u = (.ok (), v) ∧
      v.rds.committed = t.rds.committed) ↔
      editable fields = [] ∧ Answered world tenant userId u.tick := by
  cases htable : tableForTenant tenant with
  | error e =>
    unfold upsertUserProfile at saved
    rw [rds, htable] at saved
    cases saved
  | ok table =>
    obtain ⟨hrow, hsettled⟩ := rows_of_upsert rds htable saved
    rw [← kept] at hrow hsettled ⊢
    by_cases hfields : editable fields = []
    · rw [run_upsert_nothing rds htable hrow hfields]
      exact ⟨fun h => ⟨hfields, h⟩, And.right⟩
    · constructor
      · intro h'
        obtain ⟨v, hagain, -⟩ := h'
        -- the `UPDATE` would have to change a row that has these values
        obtain ⟨row, hmem, hsame, hdiffers⟩ := changes_of_upsert rds htable hrow hfields hagain
        exact absurd (hsettled row hmem hsame) hdiffers
      · intro h
        exact absurd h.1 hfields

/-- The profile of a new user of TenantA. -/
def firstSave (fields : List (String × String)) : App Unit :=
  upsertUserProfile sampleConfig "TenantA" "u-9" fields "user"

def savedState (fields : List (String × String)) : AppState :=
  (quietWorld.run (firstSave fields) emptyState).2

theorem empty_saved_again : ∃ v,
    quietWorld.run (firstSave [("role", "admin")]) (savedState [("role", "admin")]) = (.ok (), v) ∧
      v.rds.committed = (savedState [("role", "admin")]).rds.committed :=
  (saved_again_iff sampleConfig quietWorld "TenantA" "u-9" "user" [("role", "admin")] emptyState
    (savedState [("role", "admin")]) (savedState [("role", "admin")]) rfl (Prod.ext rfl rfl)
    rfl).mpr ⟨by decide, fun _ _ => ⟨rfl, rfl, rfl⟩⟩

/-- Saving an unchanged address raises. -/
theorem unchanged_save_fails : ¬ ∀ (config : Config) (world : World)
    (tenant userId role : String) (fields : List (String × String)) (s t : AppState),
    config.demoMode = false →
    world.run (upsertUserProfile config tenant userId fields role) s = (.ok (), t) →
    ∃ v, world.run (upsertUserProfile config tenant userId fields role) t = (.ok (), v) ∧
      v.rds.committed = t.rds.committed := by
  intro h
  have hsaved : quietWorld.run (firstSave [("email", "eve@a.example")]) emptyState =
      (.ok (), savedState [("email", "eve@a.example")]) := Prod.ext rfl rfl
  obtain ⟨v, hagain, -⟩ := h sampleConfig quietWorld "TenantA" "u-9" "user" _ _ _ rfl hsaved
  have hraised : (quietWorld.run (firstSave [("email", "eve@a.example")])
      (savedState [("email", "eve@a.example")])).1 =
        .error (affectedNothing "UPDATE" "u-9" "TenantA") := rfl
  rw [firstSave, hagain] at hraised
  cases hraised

end TenantSaas
