import Mathlib.Data.List.Find
import TenantSaas.Misc.Entries
import TenantSaas.Misc.Refinement
import TenantSaas.Profile.Upserts

/-!
# The functions on one row

The functions of `rds_service.py` on one row, as calls on dictionaries that keep the order of
their entries.  MySQL does what such a dictionary does, except that a call may fail.
-/

namespace TenantSaas

open Entries Refinement

/-- The row with the columns that one of the stores leaves out of a new record. -/
def UserRow.filled (row : UserRow) : UserRow :=
  { row with
    profileImage := some (row.profileImage.getD "")
    passwordLastChanged := some (row.passwordLastChanged.getD "-") }

/-- The functions on one row, with what they are given after the tenant. -/
inductive RdsCall where
  | getUserById (userId : String)
  | getUserByUsername (username : Option String)
  | upsertUserProfile (userId : String) (fields : List (String × String)) (role : String)
  | createUserRecord (userId username email role : String)
  | deleteUserRecord (userId : String) (hardDelete : Bool)
  | setUserEnabled (userId : String) (enabled : Bool)
  | markPasswordChanged (userId : String)

namespace RdsCall

/-- The call, with the row or `None` that it returns. -/
def run (config : Config) (tenant : String) : RdsCall → App (Option UserRow)
  | getUserById userId => TenantSaas.getUserById config tenant userId
  | getUserByUsername username => TenantSaas.getUserByUsername config tenant username
  | upsertUserProfile userId fields role => do
    TenantSaas.upsertUserProfile config tenant userId fields role
    pure none
  | createUserRecord userId username email role => do
    TenantSaas.createUserRecord config tenant userId username email role
    pure none
  | deleteUserRecord userId hardDelete => do
    TenantSaas.deleteUserRecord config tenant userId hardDelete
    pure none
  | setUserEnabled userId enabled => do
    TenantSaas.setUserEnabled config tenant userId enabled
    pure none
  | markPasswordChanged userId => do
    TenantSaas.markPasswordChanged config tenant userId
    pure none

/-- What a dictionary of rows answers. -/
def answer : RdsCall → DemoTable → Option UserRow
  | getUserById userId, rows => rows.lookup userId
  | getUserByUsername username, rows =>
    (rows.map Prod.snd).find? fun row => some row.username == username
  | _, _ => none

/-- What becomes of a dictionary of rows on a day. -/
def effect (today : String) : RdsCall → DemoTable → DemoTable
  | upsertUserProfile userId fields role, rows =>
    addOrChange userId ((newDemoRow userId userId "" role).filled.setAll (editable fields))
      (fun row => row.setAll (editable fields)) rows
  | createUserRecord userId username email role, rows =>
    addOrChange userId (newDemoRow userId username email role).filled
      (fun _ => (newDemoRow userId username email role).filled) rows
  | deleteUserRecord userId true, rows => dictPop userId rows
  | deleteUserRecord userId false, rows =>
    changeAt userId (fun row => { row with enabled := false }) rows
  | setUserEnabled userId enabled, rows =>
    changeAt userId (fun row => { row with enabled := enabled }) rows
  | markPasswordChanged userId, rows =>
    changeAt userId
      (fun row => { row with passwordLastChanged := some today, firstLogin := false }) rows
  | _, rows => rows

/-- The ids and usernames of the call are among the names. -/
def Named (names : String → Prop) : RdsCall → Prop
  | getUserById userId => userId = "" ∨ names userId
  | getUserByUsername username => ∀ name, username = some name → name = "" ∨ names name
  | upsertUserProfile userId fields _ =>
    names userId ∧ ∀ field ∈ fields, field.1 = "username" → names field.2
  | createUserRecord userId username _ _ => names userId ∧ names username
  | deleteUserRecord userId _ | setUserEnabled userId _ | markPasswordChanged userId =>
    names userId

end RdsCall

/-- A call with the tenant it is for, and the world it is made in. -/
structure RdsVisit where
  world : World
  tenant : String
  call : RdsCall

namespace RdsVisit

def run (config : Config) (visit : RdsVisit) (s : AppState) :
    Except PyError (Option UserRow) × AppState :=
  visit.world.run (visit.call.run config visit.tenant) s

/-- The database tells the names apart, the call has no others, and the day does not end. -/
structure Clear (names : String → Prop) (visit : RdsVisit) : Prop where
  told : ∀ a b, names a → names b → visit.world.mysql.collate a = visit.world.mysql.collate b →
    a = b
  named : visit.call.Named names
  oneDay : ∀ n, visit.world.today n = visit.world.today 0

end RdsVisit

/-- A dictionary of rows for each tenant. -/
def dictionaries : Spec RdsVisit (String → DemoTable) (Option UserRow) where
  effect visit rows := Function.update rows visit.tenant
    (visit.call.effect (visit.world.today 0) (rows visit.tenant))
  answer visit rows := visit.call.answer (rows visit.tenant)

/-- The rows of the tenants that have a table. -/
def tenantRows (config : Config) (s : AppState) (tenant : String) : DemoTable :=
  match tableForTenant tenant with
  | .ok _ => (keyedRows config tenant s).map (Prod.map id UserRow.filled)
  | .error _ => []

/-- No key twice, and names for the keys and usernames. -/
structure NamedRows (names : String → Prop) (rows : DemoTable) : Prop where
  keys : (rows.map Prod.fst).Nodup
  key : ∀ entry ∈ rows, names entry.1
  username : ∀ entry ∈ rows, names entry.2.username

/-! ## The dictionaries -/

section Filled

variable {row : UserRow} {fields : List (String × String)}

theorem filled_set (row : UserRow) (column value : String) :
    (row.set column value).filled = row.filled.set column value := by
  unfold UserRow.set
  split_ifs <;> rfl

theorem filled_setAll (row : UserRow) (fields : List (String × String)) :
    (row.setAll fields).filled = row.filled.setAll fields := by
  induction fields generalizing row with
  | nil => rfl
  | cons field fields ih =>
    rw [UserRow.setAll, UserRow.setAll, ih, filled_set]

theorem assigned_eq_none {name : String} (h : UserRow.assigned name fields = none) :
    fields.lookup name = none := by
  induction fields with
  | nil => rfl
  | cons field fields ih =>
    rw [UserRow.assigned, Option.or_eq_none_iff] at h
    rw [lookup_entry]
    by_cases hname : name = field.1
    · rw [if_pos hname] at h
      cases h.2
    · rw [if_neg hname, ih h.1]

/-- The username and email that `upsert_user_profile` starts a record with are those it sets. -/
theorem setAll_newDemoRow (userId role : String) (fields : List (String × String)) :
    (newDemoRow userId ((fields.lookup "username").getD userId) ((fields.lookup "email").getD "")
        role).setAll fields =
      (newDemoRow userId userId "" role).setAll fields := by
  have hkeys : ∀ field ∈ fields, field.1 ∈ fields.map Prod.fst := fun _ h => List.mem_map_of_mem h
  have hleft := (newDemoRow userId ((fields.lookup "username").getD userId)
    ((fields.lookup "email").getD "") role).keeps_setAll hkeys
  have hright := (newDemoRow userId userId "" role).keeps_setAll hkeys
  generalize hnew : (newDemoRow userId ((fields.lookup "username").getD userId)
    ((fields.lookup "email").getD "") role) = new at hleft ⊢
  have hcolumns : ∀ name ∈ editableProfileFields, (new.setAll fields).column name =
      ((newDemoRow userId userId "" role).setAll fields).column name := by
    intro name hname
    rw [UserRow.column_setAll _ hname, UserRow.column_setAll _ hname]
    cases hassigned : UserRow.assigned name fields with
    | some value => rfl
    | none =>
      -- a column that is not set has no key
      have hmissing := assigned_eq_none hassigned
      rw [UserRow.mem_editableProfileFields] at hname
      rcases hname with rfl | rfl | rfl | rfl | rfl <;> rw [← hnew]
      · rw [hmissing]
        rfl
      · rw [hmissing]
        rfl
      all_goals rfl
  have hkeeps : UserRow.Keeps (fields.map Prod.fst)
      ((newDemoRow userId userId "" role).setAll fields) (new.setAll fields) :=
    { userId := by rw [hleft.userId, hright.userId, ← hnew]; rfl
      role := by rw [hleft.role, hright.role, ← hnew]; rfl
      enabled := by rw [hleft.enabled, hright.enabled, ← hnew]; rfl
      firstLogin := by rw [hleft.firstLogin, hright.firstLogin, ← hnew]; rfl
      passwordLastChanged := by
        rw [hleft.passwordLastChanged, hright.passwordLastChanged, ← hnew]; rfl
      columns := fun name hname _ => hcolumns name hname }
  exact hkeeps.eq hcolumns

end Filled

section Rows

variable {names : String → Prop} {key : String} {rows : DemoTable} {f : UserRow → UserRow}

/-- An item assignment under a key, from what is there or from a new record. -/
theorem dictSet_eq_addOrChange (f : UserRow → UserRow) (hkeys : (rows.map Prod.fst).Nodup)
    (base : UserRow) :
    dictSet key (f ((rows.lookup key).getD base)) rows = addOrChange key (f base) f rows := by
  unfold addOrChange
  cases hlookup : rows.lookup key with
  | some old =>
    have hmem : key ∈ rows.map Prod.fst := by
      obtain ⟨before, after, rfl, -⟩ := List.lookup_eq_some_iff.mp hlookup
      simp
    rw [if_pos hmem]
    exact dictSet_of_found f hkeys hlookup
  | none =>
    have hmissing : key ∉ rows.map Prod.fst := by
      intro hmem
      obtain ⟨entry, hentry, hkey⟩ := List.mem_map.mp hmem
      exact lookup_eq_none hlookup entry hentry hkey
    rw [if_neg hmissing]
    exact dictSet_of_not_found _ hlookup

theorem changeAt_of_missing (h : rows.lookup key = none) : changeAt key f rows = rows := by
  refine (List.map_congr_left fun entry hentry => ?_).trans (List.map_id rows)
  rw [if_neg (lookup_eq_none h entry hentry), id]

theorem lookup_filled (rows : DemoTable) :
    (rows.map (Prod.map id UserRow.filled)).lookup key = (rows.lookup key).map UserRow.filled := by
  induction rows with
  | nil => rfl
  | cons entry rows ih =>
    rw [List.map_cons, lookup_entry, lookup_entry, ih]
    by_cases hkey : key = entry.1 <;> simp [hkey]

theorem dictPop_filled (rows : DemoTable) :
    dictPop key (rows.map (Prod.map id UserRow.filled)) =
      (dictPop key rows).map (Prod.map id UserRow.filled) := by
  rw [dictPop, dictPop, List.filter_map]
  rfl

/-- The answer of a dictionary does not depend on what is filled in. -/
theorem answer_filled (call : RdsCall) (rows : DemoTable) :
    call.answer (rows.map (Prod.map id UserRow.filled)) =
      (call.answer rows).map UserRow.filled := by
  cases call with
  | getUserById userId => exact lookup_filled rows
  | getUserByUsername username =>
    simp only [RdsCall.answer, List.map_map, List.find?_map, Option.map_map]
    rfl
  | _ => rfl

theorem namedRows_filled : NamedRows names (rows.map (Prod.map id UserRow.filled)) ↔
    NamedRows names rows := by
  have hkeys : (rows.map (Prod.map id UserRow.filled)).map Prod.fst = rows.map Prod.fst := by
    rw [List.map_map]
    rfl
  constructor
  · intro h
    exact ⟨hkeys ▸ h.keys,
      fun entry hentry => h.key (Prod.map id UserRow.filled entry) (List.mem_map_of_mem hentry),
      fun entry hentry =>
        h.username (Prod.map id UserRow.filled entry) (List.mem_map_of_mem hentry)⟩
  · intro h
    refine ⟨hkeys ▸ h.keys, fun entry hentry => ?_, fun entry hentry => ?_⟩
    · obtain ⟨old, hold, rfl⟩ := List.mem_map.mp hentry
      exact h.key old hold
    · obtain ⟨old, hold, rfl⟩ := List.mem_map.mp hentry
      exact h.username old hold

theorem NamedRows.changeAt (h : NamedRows names rows)
    (hf : ∀ row, names row.username → names (f row).username) :
    NamedRows names (changeAt key f rows) := by
  refine ⟨by rw [keys_changeAt]; exact h.keys, fun entry hentry => ?_, fun entry hentry => ?_⟩
  · rcases mem_changeAt hentry with hold | ⟨old, hold, rfl⟩
    · exact h.key entry hold
    · exact h.key old hold
  · rcases mem_changeAt hentry with hold | ⟨old, hold, rfl⟩
    · exact h.username entry hold
    · exact hf old.2 (h.username old hold)

theorem NamedRows.addOrChange {new : UserRow} (h : NamedRows names rows) (hkey : names key)
    (hnew : names new.username) (hf : ∀ row, names row.username → names (f row).username) :
    NamedRows names (addOrChange key new f rows) := by
  refine ⟨nodup_addOrChange h.keys, fun entry hentry => ?_, fun entry hentry => ?_⟩
  · rcases mem_addOrChange hentry with hold | ⟨old, hold, rfl⟩ | rfl
    · exact h.key entry hold
    · exact h.key old hold
    · exact hkey
  · rcases mem_addOrChange hentry with hold | ⟨old, hold, rfl⟩ | rfl
    · exact h.username entry hold
    · exact hf old.2 (h.username old hold)
    · exact hnew

end Rows

/-- A call did on the tenant's rows what a dictionary does, and nothing on the others. -/
structure Done (config : Config) (visit : RdsVisit) (s : AppState) (answer : Option UserRow)
    (t : AppState) : Prop where
  table : ∃ table, tableForTenant visit.tenant = .ok table
  answered : answer = visit.call.answer (keyedRows config visit.tenant s)
  own : (keyedRows config visit.tenant t).map (Prod.map id UserRow.filled) =
    visit.call.effect (visit.world.today 0)
      ((keyedRows config visit.tenant s).map (Prod.map id UserRow.filled))
  others : ∀ tenant, tenant ≠ visit.tenant → keyedRows config tenant t = keyedRows config tenant s

section Done

variable {config : Config} {names : String → Prop} {visit : RdsVisit} {s t : AppState}
  {answer : Option UserRow}

theorem tenantRows_of_table {tenant : String} (h : ∃ table, tableForTenant tenant = .ok table) :
    tenantRows config s tenant = (keyedRows config tenant s).map (Prod.map id UserRow.filled) := by
  obtain ⟨table, htable⟩ := h
  unfold tenantRows
  rw [htable]

theorem tenantRows_congr {tenant : String}
    (h : keyedRows config tenant t = keyedRows config tenant s) :
    tenantRows config t tenant = tenantRows config s tenant := by
  unfold tenantRows
  rw [h]

theorem Done.refines (h : Done config visit s answer t) :
    answer.map UserRow.filled = dictionaries.answer visit (tenantRows config s) ∧
      tenantRows config t = dictionaries.effect visit (tenantRows config s) := by
  constructor
  · simp only [dictionaries, tenantRows_of_table h.table, answer_filled, h.answered]
  · funext tenant
    by_cases htenant : tenant = visit.tenant
    · subst htenant
      simp only [dictionaries, Function.update_self, tenantRows_of_table h.table, h.own]
    · simp only [dictionaries, Function.update_of_ne htenant]
      exact tenantRows_congr (h.others tenant htenant)

/-- A call that changes no rows. -/
theorem Done.of_kept (table : ∃ table, tableForTenant visit.tenant = .ok table)
    (answered : answer = visit.call.answer (keyedRows config visit.tenant s))
    (hreads : ∀ rows, visit.call.effect (visit.world.today 0) rows = rows)
    (hkept : ∀ tenant, keyedRows config tenant t = keyedRows config tenant s) :
    Done config visit s answer t where
  table := table
  answered := answered
  own := by rw [hreads, hkept]
  others tenant _ := hkept tenant

/-- A call that changes the row of a user. -/
theorem Done.of_changed {userId : String} {f : UserRow → UserRow}
    (table : ∃ table, tableForTenant visit.tenant = .ok table)
    (hown : keyedRows config visit.tenant t =
      changeAt userId f (keyedRows config visit.tenant s))
    (others : ∀ tenant, tenant ≠ visit.tenant →
      keyedRows config tenant t = keyedRows config tenant s)
    (hcall : ∀ rows, visit.call.effect (visit.world.today 0) rows = changeAt userId f rows)
    (hnone : ∀ rows, visit.call.answer rows = none)
    (hf : ∀ row, (f row).filled = f row.filled) : Done config visit s none t where
  table := table
  answered := (hnone _).symm
  own := by rw [hown, map_changeAt f hf, hcall]
  others := others

/-! ## What MySQL does -/

section Real

variable {tenant userId : String} {table : TenantTable} {statement : RowWrite} {world : World}

theorem createUserRecord_eq (rds : config.demoMode = false) (userId username email role : String) :
    createUserRecord config tenant userId username email role =
      writeRecord tenant (.insert (UserRow.withDefaults userId username email role)) := by
  unfold createUserRecord
  rw [rds]
  rfl

theorem deleteUserRecord_eq (rds : config.demoMode = false) (userId : String)
    (hardDelete : Bool) :
    deleteUserRecord config tenant userId hardDelete = writeRecord tenant
      (if hardDelete then .delete userId else .updateEnabled userId false) := by
  unfold deleteUserRecord
  rw [rds]
  rfl

theorem setUserEnabled_eq (rds : config.demoMode = false) (userId : String) (enabled : Bool) :
    setUserEnabled config tenant userId enabled =
      writeRecord tenant (.updateEnabled userId enabled) := by
  unfold setUserEnabled
  rw [rds]
  rfl

theorem run_markPasswordChanged (rds : config.demoMode = false) (userId : String) (s : AppState) :
    world.run (markPasswordChanged config tenant userId) s =
      world.run (writeRecord tenant (.updatePasswordChanged userId (world.today s.tick)))
        { s with tick := s.tick + 1 } := by
  have hread : world.run (perform .today) s =
    (.ok (world.today s.tick), { s with tick := s.tick + 1 }) := rfl
  unfold markPasswordChanged
  rw [World.run_bind_ok hread, rds]
  rfl

/-- Keys that are alike to the database are one name. -/
theorem keyText_eq_iff (rds : config.demoMode = false) (hclear : visit.Clear names) {a b : String}
    (ha : names a) (hb : names b) :
    keyText config visit.world a = keyText config visit.world b ↔ a = b := by
  rw [keyText_real rds, keyText_real rds]
  exact ⟨hclear.told a b ha hb, congrArg _⟩

theorem sameText_eq_beq (rds : config.demoMode = false) (hclear : visit.Clear names)
    {a b : String} (ha : names a) (hb : names b) :
    sameText config visit.world a b = (a == b) := by
  rw [Bool.eq_iff_iff, sameText_iff, keyText_eq_iff rds hclear ha hb, beq_iff_eq]

theorem storedRow_eq_lookup (rds : config.demoMode = false) (hclear : visit.Clear names)
    (hrows : NamedRows names (keyedRows config tenant s)) (hid : names userId) :
    storedRow config visit.world tenant userId s = (keyedRows config tenant s).lookup userId := by
  unfold storedRow
  rw [List.find?_congr fun entry hentry => sameText_eq_beq rds hclear (hrows.key entry hentry) hid]
  exact find?_key userId _

theorem namedRow_eq_find (rds : config.demoMode = false) (hclear : visit.Clear names)
    (hrows : NamedRows names (keyedRows config tenant s)) {username : String}
    (hname : names username) :
    namedRow config visit.world tenant username s =
      (RdsCall.getUserByUsername (some username)).answer (keyedRows config tenant s) := by
  unfold namedRow
  rw [List.find?_congr fun entry hentry =>
    sameText_eq_beq rds hclear (hrows.username entry hentry) hname, RdsCall.answer, List.find?_map]
  rfl

theorem lookup_of_unnamed (hempty : ¬ names "") {rows : DemoTable} (hrows : NamedRows names rows) :
    rows.lookup "" = none := by
  rw [List.lookup_eq_none_iff]
  intro entry hentry
  rw [bne_iff_ne]
  intro hkey
  exact hempty (hkey ▸ hrows.key entry hentry)

theorem find_of_unnamed (hempty : ¬ names "") {rows : DemoTable} (hrows : NamedRows names rows) :
    (RdsCall.getUserByUsername (some "")).answer rows = none := by
  rw [RdsCall.answer, List.find?_eq_none]
  intro row hrow hname
  obtain ⟨entry, hentry, rfl⟩ := List.mem_map.mp hrow
  have husername : entry.2.username = "" := by simpa using hname
  exact hempty (husername ▸ hrows.username entry hentry)

/-- An `UPDATE` of the rows with a user id. -/
theorem keyedRows_changeAt (rds : config.demoMode = false)
    (htable : tableForTenant visit.tenant = .ok table) (hclear : visit.Clear names)
    (hrows : NamedRows names (keyedRows config visit.tenant s)) (hid : names userId)
    {f : UserRow → UserRow} (hf : ∀ row, (f row).userId = row.userId)
    (h : t.rds.committed table = (s.rds.committed table).map fun row =>
      if visit.world.mysql.eq row.userId userId then f row else row) :
    keyedRows config visit.tenant t = changeAt userId f (keyedRows config visit.tenant s) := by
  rw [keyedRows_real rds htable] at hrows ⊢
  rw [keyedRows_real rds htable, h, keyedRows_update rds hf]
  refine List.map_congr_left fun entry hentry => ?_
  simp only [keyText_eq_iff rds hclear (hrows.key entry hentry) hid]

/-- A statement leaves the other tenants' rows. -/
theorem writeRecord_others (rds : config.demoMode = false)
    (h : world.run (writeRecord tenant statement) s = (.ok (), t)) :
    ∀ tenant', tenant' ≠ tenant → keyedRows config tenant' t = keyedRows config tenant' s := by
  obtain ⟨table, count, rows, htable, -, hrows⟩ := writeRecord_ok h
  intro tenant' hne
  cases htable' : tableForTenant tenant' with
  | error e =>
    unfold keyedRows
    rw [rds, htable']
    rfl
  | ok table' =>
    rw [keyedRows_real rds htable', keyedRows_real rds htable', hrows,
      Rds.setTable_other _ (table_ne hne htable htable').symm]

theorem table_of_run {α : Type} {f : TenantTable → App α} {a : α}
    (h : world.run (Prog.ofExcept (tableForTenant tenant) >>= f) s = (.ok a, t)) :
    ∃ table, tableForTenant tenant = .ok table := by
  cases htable : tableForTenant tenant with
  | error e =>
    rw [htable] at h
    cases h
  | ok table => exact ⟨table, rfl⟩

/-- A statement that changes the rows with a user id. -/
theorem done_of_update (rds : config.demoMode = false) (hclear : visit.Clear names)
    (hrows : NamedRows names (keyedRows config visit.tenant s)) (hid : names userId)
    (h : visit.world.run (writeRecord visit.tenant statement) s = (.ok (), t))
    {f : UserRow → UserRow}
    (happly : ∀ rows, visit.world.mysql.apply rows statement =
      .ok (visit.world.mysql.updateWhere rows userId f))
    (hcall : ∀ rows, visit.call.effect (visit.world.today 0) rows = changeAt userId f rows)
    (hnone : ∀ rows, visit.call.answer rows = none)
    (hf : ∀ row, (f row).userId = row.userId ∧ (f row).filled = f row.filled) :
    Done config visit s none t := by
  obtain ⟨table, count, rows, htable, hresult, hcommitted⟩ := writeRecord_ok h
  rw [happly] at hresult
  have hown : t.rds.committed table = (s.rds.committed table).map fun row =>
      if visit.world.mysql.eq row.userId userId then f row else row := by
    rw [hcommitted, Rds.setTable_self]
    exact (Prod.mk.inj (Except.ok.inj hresult)).2.symm
  have hchanged := keyedRows_changeAt rds htable hclear hrows hid (fun row => (hf row).1) hown
  exact .of_changed ⟨table, htable⟩ hchanged (writeRecord_others rds h) hcall hnone
    fun row => (hf row).2

/-- Nobody is looked up under an empty id. -/
theorem getUserById_blank (rds : config.demoMode = false)
    (h : world.run (getUserById config tenant "") s = (.ok answer, t)) : answer = none := by
  obtain ⟨table, htable⟩ := table_of_run h
  unfold getUserById at h
  rw [htable, rds] at h
  cases h
  rfl

theorem getUserByUsername_blank (rds : config.demoMode = false) {username : Option String}
    (hblank : username = none ∨ username = some "")
    (h : world.run (getUserByUsername config tenant username) s = (.ok answer, t)) :
    answer = none := by
  obtain ⟨table, htable⟩ := table_of_run h
  unfold getUserByUsername at h
  rw [htable, rds] at h
  rcases hblank with rfl | rfl <;>
    · cases h
      rfl

/-- What a lookup by id returns is what a dictionary has. -/
theorem getUserById_answer (rds : config.demoMode = false) (hempty : ¬ names "")
    (hclear : visit.Clear names) (hrows : NamedRows names (keyedRows config tenant s))
    (hid : userId = "" ∨ names userId)
    (h : visit.world.run (getUserById config tenant userId) s = (.ok answer, t)) :
    answer = (keyedRows config tenant s).lookup userId := by
  by_cases hblank : userId = ""
  · subst hblank
    rw [getUserById_blank rds h, lookup_of_unnamed hempty hrows]
  · rw [getUserById_eq hblank h]
    exact storedRow_eq_lookup rds hclear hrows (hid.resolve_left hblank)

theorem getUserByUsername_answer (rds : config.demoMode = false) (hempty : ¬ names "")
    (hclear : visit.Clear names) (hrows : NamedRows names (keyedRows config tenant s))
    {username : Option String} (hname : ∀ name, username = some name → name = "" ∨ names name)
    (h : visit.world.run (getUserByUsername config tenant username) s = (.ok answer, t)) :
    answer = (RdsCall.getUserByUsername username).answer (keyedRows config tenant s) := by
  cases username with
  | none =>
    rw [getUserByUsername_blank rds (.inl rfl) h, RdsCall.answer]
    simp
  | some username =>
    by_cases hblank : username = ""
    · subst hblank
      rw [getUserByUsername_blank rds (.inr rfl) h, find_of_unnamed hempty hrows]
    · rw [getUserByUsername_eq hblank h]
      exact namedRow_eq_find rds hclear hrows ((hname username rfl).resolve_left hblank)

/-- The rows after a save. -/
theorem upsert_addOrChange (rds : config.demoMode = false) (hclear : visit.Clear names)
    (hrows : NamedRows names (keyedRows config visit.tenant s)) (hid : names userId)
    {fields : List (String × String)} {role : String}
    (htable : tableForTenant visit.tenant = .ok table)
    (h : visit.world.run (upsertUserProfile config visit.tenant userId fields role) s =
      (.ok (), t)) :
    keyedRows config visit.tenant t =
      addOrChange userId ((UserRow.withDefaults userId userId "" role).setAll (editable fields))
        (fun row => row.setAll (editable fields)) (keyedRows config visit.tenant s) := by
  have hsame : ∀ row ∈ s.rds.committed table,
      (visit.world.mysql.eq row.userId userId = true ↔ row.userId = userId) := by
    intro row hrow
    have hmem : (row.userId, row) ∈ keyedRows config visit.tenant s := by
      rw [keyedRows_real rds htable]
      exact List.mem_map_of_mem hrow
    have halike := keyText_eq_iff rds hclear (hrows.key _ hmem) hid
    rwa [keyText_real rds, keyText_real rds, ← beq_iff_eq] at halike
  unfold addOrChange
  rcases upsert_real rds htable h with ⟨⟨row, hrow, hfound⟩, hcommitted⟩ | ⟨hnone, hcommitted⟩
  · rw [if_pos, keyedRows_changeAt rds htable hclear hrows hid (fun row => setAll_userId row _)
      hcommitted]
    rw [keyedRows_real rds htable, List.map_map]
    exact List.mem_map.mpr ⟨row, hrow, (hsame row hrow).mp hfound⟩
  · rw [if_neg, keyedRows_inserted rds htable hcommitted]
    rw [keyedRows_real rds htable, List.map_map, List.mem_map]
    rintro ⟨row, hrow, hkey⟩
    have hfound := (hsame row hrow).mpr hkey
    rw [hnone row hrow] at hfound
    cases hfound

theorem create_addOrChange (rds : config.demoMode = false)
    {username email role : String} {world : World}
    (h : world.run (writeRecord tenant
      (.insert (UserRow.withDefaults userId username email role))) s = (.ok (), t)) :
    keyedRows config tenant t =
      addOrChange userId (UserRow.withDefaults userId username email role)
        (fun _ => UserRow.withDefaults userId username email role)
        (keyedRows config tenant s) := by
  obtain ⟨table, count, rows, htable, hresult, hcommitted⟩ := writeRecord_ok h
  obtain ⟨hfresh, rfl⟩ := apply_insert hresult
  unfold addOrChange
  rw [keyedRows_real rds htable, keyedRows_real rds htable, hcommitted, Rds.setTable_self,
    List.map_append, if_neg]
  · rfl
  · rw [List.map_map, List.mem_map]
    rintro ⟨row, hrow, hkey⟩
    have hnew := List.all_eq_true.mp hfresh row hrow
    rw [Bool.and_eq_true] at hnew
    obtain ⟨hkeys, -⟩ := hnew
    have hsame : row.userId = userId := hkey
    simp [MySql.eq, UserRow.withDefaults, hsame] at hkeys

theorem delete_dictPop (rds : config.demoMode = false) (hclear : visit.Clear names)
    (hrows : NamedRows names (keyedRows config visit.tenant s)) (hid : names userId)
    (h : visit.world.run (writeRecord visit.tenant (.delete userId)) s = (.ok (), t)) :
    keyedRows config visit.tenant t = dictPop userId (keyedRows config visit.tenant s) := by
  obtain ⟨table, count, rows, htable, hresult, hcommitted⟩ := writeRecord_ok h
  have hdeleted := (Prod.mk.inj (Except.ok.inj hresult)).2
  rw [keyedRows_real rds htable] at hrows ⊢
  rw [keyedRows_real rds htable, hcommitted, Rds.setTable_self, ← hdeleted, dictPop,
    List.filter_map]
  refine congrArg _ (List.filter_congr fun row hrow => ?_)
  have halike := keyText_eq_iff rds hclear
    (hrows.key (row.userId, row) (List.mem_map_of_mem hrow)) hid
  rw [keyText_real rds, keyText_real rds] at halike
  rw [Bool.eq_iff_iff]
  simp [MySql.eq, halike]

/-- Only a tenant with a table is answered. -/
theorem table_of_returned (rds : config.demoMode = false)
    (h : visit.run config s = (.ok answer, t)) :
    ∃ table, tableForTenant visit.tenant = .ok table := by
  obtain ⟨world, tenant, call⟩ := visit
  cases call with
  | getUserById userId => exact table_of_run h
  | getUserByUsername username => exact table_of_run h
  | upsertUserProfile userId fields role =>
    obtain ⟨_, u, hrun, -⟩ := World.run_bind_eq_ok.mp h
    unfold upsertUserProfile at hrun
    rw [rds] at hrun
    exact table_of_run hrun
  | createUserRecord userId username email role =>
    obtain ⟨_, u, hrun, -⟩ := World.run_bind_eq_ok.mp h
    rw [createUserRecord_eq rds] at hrun
    exact table_of_run hrun
  | deleteUserRecord userId hardDelete =>
    obtain ⟨_, u, hrun, -⟩ := World.run_bind_eq_ok.mp h
    rw [deleteUserRecord_eq rds] at hrun
    exact table_of_run hrun
  | setUserEnabled userId enabled =>
    obtain ⟨_, u, hrun, -⟩ := World.run_bind_eq_ok.mp h
    rw [setUserEnabled_eq rds] at hrun
    exact table_of_run hrun
  | markPasswordChanged userId =>
    obtain ⟨_, u, hrun, -⟩ := World.run_bind_eq_ok.mp h
    rw [run_markPasswordChanged rds] at hrun
    exact table_of_run hrun

/-- A call that MySQL answers. -/
theorem real_done (rds : config.demoMode = false) (hempty : ¬ names "")
    (hclear : visit.Clear names) (hrows : NamedRows names (keyedRows config visit.tenant s))
    (h : visit.run config s = (.ok answer, t)) : Done config visit s answer t := by
  have htable := table_of_returned rds h
  obtain ⟨world, tenant, call⟩ := visit
  cases call with
  | getUserById userId =>
    change world.run (getUserById config tenant userId) s = _ at h
    refine .of_kept htable ?_ (fun _ => rfl) fun tenant' => ?_
    · exact getUserById_answer rds hempty hclear hrows hclear.named h
    · have hkept : keyedRows config tenant' (world.run (getUserById config tenant userId) s).2 =
          keyedRows config tenant' s := run_keyedRows (getUserById_keepsRows userId) s
      rwa [h] at hkept
  | getUserByUsername username =>
    change world.run (getUserByUsername config tenant username) s = _ at h
    refine .of_kept htable ?_ (fun _ => rfl) fun tenant' => ?_
    · exact getUserByUsername_answer rds hempty hclear hrows hclear.named h
    · have hkept : keyedRows config tenant'
          (world.run (getUserByUsername config tenant username) s).2 =
          keyedRows config tenant' s := run_keyedRows (getUserByUsername_keepsRows username) s
      rwa [h] at hkept
  | upsertUserProfile userId fields role =>
    obtain ⟨_, u, hrun, hret⟩ := World.run_bind_eq_ok.mp h
    cases hret
    refine ⟨htable, rfl, ?_, upsert_keepsOthers hrun⟩
    obtain ⟨table, hok⟩ := htable
    rw [upsert_addOrChange rds hclear hrows hclear.named.1 hok hrun,
      map_addOrChange (fun row => row.setAll (editable fields)) (fun row => filled_setAll row _),
      filled_setAll]
    rfl
  | createUserRecord userId username email role =>
    obtain ⟨_, u, hrun, hret⟩ := World.run_bind_eq_ok.mp h
    cases hret
    rw [createUserRecord_eq rds] at hrun
    refine ⟨htable, rfl, ?_, writeRecord_others rds hrun⟩
    have hfilled : ∀ _ : UserRow, (UserRow.withDefaults userId username email role).filled =
      (newDemoRow userId username email role).filled := fun _ => rfl
    rw [create_addOrChange rds hrun, map_addOrChange
      (fun _ => (newDemoRow userId username email role).filled) hfilled]
    rfl
  | deleteUserRecord userId hardDelete =>
    obtain ⟨_, u, hrun, hret⟩ := World.run_bind_eq_ok.mp h
    cases hret
    rw [deleteUserRecord_eq rds] at hrun
    cases hardDelete with
    | true =>
      refine ⟨htable, rfl, ?_, writeRecord_others rds hrun⟩
      rw [delete_dictPop rds hclear hrows hclear.named hrun]
      exact (dictPop_filled _).symm
    | false =>
      exact done_of_update rds hclear hrows hclear.named hrun (fun _ => rfl) (fun _ => rfl)
        (fun _ => rfl) fun _ => ⟨rfl, rfl⟩
  | setUserEnabled userId enabled =>
    obtain ⟨_, u, hrun, hret⟩ := World.run_bind_eq_ok.mp h
    cases hret
    rw [setUserEnabled_eq rds] at hrun
    exact done_of_update rds hclear hrows hclear.named hrun (fun _ => rfl) (fun _ => rfl)
      (fun _ => rfl) fun _ => ⟨rfl, rfl⟩
  | markPasswordChanged userId =>
    obtain ⟨_, u, hrun, hret⟩ := World.run_bind_eq_ok.mp h
    cases hret
    have htoday : world.today s.tick = world.today 0 := hclear.oneDay s.tick
    rw [run_markPasswordChanged rds, htoday] at hrun
    have hread' : NamedRows names (keyedRows config tenant { s with tick := s.tick + 1 }) := hrows
    have hdone := done_of_update rds hclear hread' hclear.named hrun (fun _ => rfl)
      (fun _ => rfl) (fun _ => rfl) fun _ => ⟨rfl, rfl⟩
    exact ⟨hdone.table, hdone.answered, hdone.own, hdone.others⟩

theorem keyedRows_of_committed (rds : config.demoMode = false)
    (h : t.rds.committed = s.rds.committed) (tenant : String) :
    keyedRows config tenant t = keyedRows config tenant s := by
  unfold keyedRows
  simp only [rds, Bool.false_eq_true, if_false, h]

theorem run_of_raised {p : App Unit} {e : PyError} (h : world.run (do
      p
      pure none : App (Option UserRow)) s = (.error e, t)) :
    world.run p s = (.error e, t) := by
  rcases hrun : world.run p s with ⟨e' | _, u⟩
  · rw [World.run_bind_error hrun] at h
    cases h
    rfl
  · rw [World.run_bind_ok hrun] at h
    cases h

/-- A call that raised left every row. -/
theorem real_raised (rds : config.demoMode = false) {e : PyError}
    (h : visit.run config s = (.error e, t)) (tenant' : String) :
    keyedRows config tenant' t = keyedRows config tenant' s := by
  obtain ⟨world, tenant, call⟩ := visit
  cases call with
  | getUserById userId =>
    have hkept : keyedRows config tenant' (world.run (getUserById config tenant userId) s).2 =
        keyedRows config tenant' s := run_keyedRows (getUserById_keepsRows userId) s
    change world.run (getUserById config tenant userId) s = _ at h
    rwa [h] at hkept
  | getUserByUsername username =>
    have hkept : keyedRows config tenant'
        (world.run (getUserByUsername config tenant username) s).2 =
        keyedRows config tenant' s := run_keyedRows (getUserByUsername_keepsRows username) s
    change world.run (getUserByUsername config tenant username) s = _ at h
    rwa [h] at hkept
  | upsertUserProfile userId fields role =>
    have hrun := run_of_raised h
    by_cases htenant : tenant' = tenant
    · rw [htenant]
      exact keyedRows_of_upsert_error hrun
    · exact upsert_keepsOthers hrun tenant' htenant
  | createUserRecord userId username email role =>
    have hrun := run_of_raised h
    rw [createUserRecord_eq rds] at hrun
    exact keyedRows_of_committed rds (writeRecord_error hrun) tenant'
  | deleteUserRecord userId hardDelete =>
    have hrun := run_of_raised h
    rw [deleteUserRecord_eq rds] at hrun
    exact keyedRows_of_committed rds (writeRecord_error hrun) tenant'
  | setUserEnabled userId enabled =>
    have hrun := run_of_raised h
    rw [setUserEnabled_eq rds] at hrun
    exact keyedRows_of_committed rds (writeRecord_error hrun) tenant'
  | markPasswordChanged userId =>
    have hrun := run_of_raised h
    rw [run_markPasswordChanged rds] at hrun
    have hkept := writeRecord_error hrun
    exact keyedRows_of_committed rds hkept tenant'

theorem namedRows_of_tenantRows (rds : config.demoMode = false)
    (h : NamedRows names (tenantRows config s tenant)) :
    NamedRows names (keyedRows config tenant s) := by
  cases htable : tableForTenant tenant with
  | ok table =>
    rw [tenantRows_of_table ⟨table, htable⟩] at h
    exact namedRows_filled.mp h
  | error e =>
    have hempty : keyedRows config tenant s = [] := by
      unfold keyedRows
      rw [rds, htable]
      rfl
    rw [hempty]
    exact ⟨List.nodup_nil, fun _ h => (by cases h), fun _ h => (by cases h)⟩

end Real

end Done

end TenantSaas
