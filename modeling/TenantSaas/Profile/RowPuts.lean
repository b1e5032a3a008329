import TenantSaas.Misc.Directory
import TenantSaas.Profile.Rows

/-!
# Putting a row

The rows of a tenant as a directory: what `upsert_user_profile` and `create_user_record` put
into it, and that they leave the rows of the other tenants alone.
-/

namespace TenantSaas

open Directory

/-- Entries of a tenant's rows: the key is the row's own, and no two are alike. -/
structure RowsKeyed (config : Config) (world : World) (tenant : String) (s : AppState) : Prop where
  keyed : Keyed (keyText config world) (keyedRows config tenant s)
  userId : ∀ entry ∈ keyedRows config tenant s, entry.2.userId = entry.1

section DictSet

variable {α : Type} {key : String} {entries : List (String × α)}

theorem dictSet_of_found {old : α} (f : α → α) (hkeys : (entries.map Prod.fst).Nodup)
    (h : entries.lookup key = some old) :
    dictSet key (f old) entries =
      entries.map fun entry => if entry.1 = key then (entry.1, f entry.2) else entry := by
  induction entries with
  | nil => cases h
  | cons entry entries ih =>
    rw [List.map_cons, List.nodup_cons] at hkeys
    obtain ⟨hfirst, hrest⟩ := hkeys
    rw [lookup_entry] at h
    rw [dictSet, List.map_cons]
    by_cases hkey : entry.1 = key
    · rw [if_pos hkey.symm] at h
      cases h
      rw [if_pos hkey, if_pos hkey, hkey]
      congr 1
      -- no later entry has the key
      refine (List.map_id _).symm.trans (List.map_congr_left fun other hother => ?_)
      rw [if_neg]
      · rfl
      · rintro hsame
        rw [hkey, ← hsame] at hfirst
        exact hfirst (List.mem_map_of_mem hother)
    · rw [if_neg (Ne.symm hkey)] at h
      rw [if_neg hkey, if_neg hkey, ih hrest h]

theorem dictSet_of_not_found (value : α) (h : entries.lookup key = none) :
    dictSet key value entries = entries ++ [(key, value)] := by
  induction entries with
  | nil => rfl
  | cons entry entries ih =>
    rw [lookup_entry] at h
    by_cases hkey : key = entry.1
    · rw [if_pos hkey] at h
      cases h
    · rw [if_neg hkey] at h
      rw [dictSet, if_neg (Ne.symm hkey), ih h]
      rfl

theorem lookup_eq_none {entries : List (String × α)} (h : entries.lookup key = none) :
    ∀ entry ∈ entries, entry.1 ≠ key := by
  intro entry hentry hkey
  have hne := List.lookup_eq_none_iff.mp h entry hentry
  rw [hkey] at hne
  simp at hne

/-- An item assignment changes the entry of the key, or adds one. -/
theorem put_dictSet {norm : String → String} (hnorm : ∀ text, norm text = text) {f : α → α}
    {new value : α} (keyed : Keyed norm entries)
    (hfound : ∀ old, entries.lookup key = some old → value = f old)
    (hmissing : entries.lookup key = none → value = new) :
    Put norm key new f entries (dictSet key value entries) := by
  have hkeys : (entries.map Prod.fst).Nodup := by
    simpa only [Keyed, hnorm] using keyed
  cases hlookup : entries.lookup key with
  | some old =>
    rw [hfound old hlookup, dictSet_of_found f hkeys hlookup]
    have hput := @Put.changed String String α _ norm key new f entries
    simp only [hnorm] at hput
    obtain ⟨before, after, rfl, -⟩ := List.lookup_eq_some_iff.mp hlookup
    exact hput ⟨(key, old), by simp, rfl⟩
  | none =>
    rw [hmissing hlookup, dictSet_of_not_found _ hlookup]
    refine .added fun entry hentry => ?_
    rw [hnorm, hnorm]
    exact lookup_eq_none hlookup entry hentry

end DictSet

section Puts

variable {config : Config} {world : World} {tenant tenant' userId username email role : String}
  {fields : List (String × String)} {s t : AppState}

theorem keyText_demo (demo : config.demoMode = true) (text : String) :
    keyText config world text = text := by
  unfold keyText
  rw [if_pos demo]

theorem keyText_real (demo : config.demoMode = false) (text : String) :
    keyText config world text = world.mysql.collate text := by
  unfold keyText
  rw [demo]
  rfl

theorem keyedRows_demo (demo : config.demoMode = true) :
    keyedRows config tenant s = (s.demoDb.lookup tenant).getD [] := by
  unfold keyedRows
  rw [if_pos demo]

theorem keyedRows_real (demo : config.demoMode = false) {table : TenantTable}
    (htable : tableForTenant tenant = .ok table) :
    keyedRows config tenant s = (s.rds.committed table).map fun row => (row.userId, row) := by
  unfold keyedRows
  rw [demo, htable]
  rfl

theorem set_enabled (row : UserRow) (column value : String) :
    (row.set column value).enabled = row.enabled := by
  unfold UserRow.set
  repeat' split
  all_goals rfl

theorem setAll_enabled (row : UserRow) (fields : List (String × String)) :
    (row.setAll fields).enabled = row.enabled := by
  induction fields generalizing row with
  | nil => rfl
  | cons field fields ih =>
    unfold UserRow.setAll
    rw [ih, set_enabled]

/-- Rows that are changed where their key is like the user id, as entries. -/
theorem keyedRows_update (demo : config.demoMode = false) {f : UserRow → UserRow}
    (hf : ∀ row, (f row).userId = row.userId) (rows : Table) :
    ((rows.map fun row => if world.mysql.eq row.userId userId then f row else row).map fun row =>
        (row.userId, row)) =
      (rows.map fun row => (row.userId, row)).map fun entry =>
        if keyText config world entry.1 = keyText config world userId then (entry.1, f entry.2)
        else entry := by
  rw [List.map_map, List.map_map]
  refine List.map_congr_left fun row _ => ?_
  simp only [Function.comp_apply, keyText_real demo, MySql.eq, beq_iff_eq]
  split
  · rw [hf]
  · rfl

/-- A profile that is saved is put under the user id. -/
theorem upsert_put (keyed : Keyed (keyText config world) (keyedRows config tenant s))
    (h : world.run (upsertUserProfile config tenant userId fields role) s = (.ok (), t)) :
    ∃ base : UserRow, base.userId = userId ∧ base.enabled = true ∧
      Put (keyText config world) userId (base.setAll (editable fields))
        (fun row => row.setAll (editable fields))
        (keyedRows config tenant s) (keyedRows config tenant t) := by
  cases demo : config.demoMode with
  | true =>
    rw [upsert_demo demo] at h
    cases h
    refine ⟨newDemoRow userId (((editable fields).lookup "username").getD userId)
      (((editable fields).lookup "email").getD "") role, rfl, rfl, ?_⟩
    rw [keyedRows_demo demo] at keyed ⊢
    rw [keyedRows_demo demo]
    simp only [lookup_dictSet, if_true, Option.getD_some]
    refine put_dictSet (keyText_demo demo) keyed (fun old hold => ?_) fun hnone => ?_
    · rw [hold]
      rfl
    · rw [hnone]
      rfl
  | false =>
    cases htable : tableForTenant tenant with
    | error e =>
      unfold upsertUserProfile at h
      rw [demo, htable] at h
      cases h
    | ok table =>
      refine ⟨UserRow.withDefaults userId userId "" role, rfl, rfl, ?_⟩
      rw [keyedRows_real demo htable, keyedRows_real demo htable]
      rcases upsert_real demo htable h with ⟨⟨row, hrow, hsame⟩, hrows⟩ | ⟨hnone, hrows⟩
      · rw [hrows, keyedRows_update demo fun row => setAll_userId row _]
        refine .changed ⟨(row.userId, row), List.mem_map_of_mem hrow, ?_⟩
        simpa [keyText_real demo, MySql.eq] using hsame
      · rw [hrows, List.map_append, List.map_singleton, setAll_userId]
        refine .added fun entry hentry => ?_
        obtain ⟨row, hrow, rfl⟩ := List.mem_map.mp hentry
        simpa [keyText_real demo, MySql.eq] using hnone row hrow

/-- A row that is created is put under the user id; a table has neither key before. -/
theorem createUserRecord_put (keyed : Keyed (keyText config world) (keyedRows config tenant s))
    (h : world.run (createUserRecord config tenant userId username email role) s = (.ok (), t)) :
    ∃ row : UserRow, row.userId = userId ∧ row.username = username ∧ row.enabled = true ∧
      Put (keyText config world) userId row (fun _ => row)
        (keyedRows config tenant s) (keyedRows config tenant t) ∧
      (config.demoMode = false → ∀ entry ∈ keyedRows config tenant s,
        keyText config world entry.1 ≠ keyText config world userId ∧
          keyText config world entry.2.username ≠ keyText config world username) := by
  cases demo : config.demoMode with
  | true =>
    unfold createUserRecord at h
    rw [if_pos demo, World.run_bind_ok (run_demoRows tenant s)] at h
    cases h
    refine ⟨newDemoRow userId username email role, rfl, rfl, rfl, ?_, fun real => by cases real⟩
    rw [keyedRows_demo demo] at keyed ⊢
    rw [keyedRows_demo demo]
    show Put _ _ _ _ _ ((List.lookup tenant (dictSet tenant _ s.demoDb)).getD [])
    rw [lookup_dictSet, if_pos rfl, Option.getD_some]
    exact put_dictSet (keyText_demo demo) keyed (fun _ _ => rfl) fun _ => rfl
  | false =>
    have hwrite : world.run (writeRecord tenant
        (.insert (UserRow.withDefaults userId username email role))) s = (.ok (), t) := by
      unfold createUserRecord at h
      rw [demo] at h
      exact h
    obtain ⟨table, count, rows, htable, happly, hrows⟩ := writeRecord_ok hwrite
    obtain ⟨hfresh, rfl⟩ := apply_insert happly
    rw [keyedRows_real demo htable, keyedRows_real demo htable, hrows, Rds.setTable_self,
      List.map_append, List.map_singleton]
    have hnew : ∀ entry ∈ (s.rds.committed table).map fun row => (row.userId, row),
        keyText config world entry.1 ≠ keyText config world userId ∧
          keyText config world entry.2.username ≠ keyText config world username := by
      intro entry hentry
      obtain ⟨row, hrow, rfl⟩ := List.mem_map.mp hentry
      simpa [keyText_real demo, MySql.eq, UserRow.withDefaults] using
        List.all_eq_true.mp hfresh row hrow
    exact ⟨_, rfl, rfl, rfl, .added fun entry hentry => (hnew entry hentry).1, fun _ => hnew⟩

/-! ## The rows of the other tenants -/

/-- The calls inside a transaction that do not write a table. -/
def AppOp.sparesTable (table : TenantTable) : AppOp → Prop
  | .write t _ => t ≠ table
  | .connect | .commit | .rollback | .close => False
  | _ => True

theorem exec_sparesTable {table : TenantTable} {op : AppOp} (h : op.sparesTable table)
    (s : AppState) : (world.exec s op).2.rds.working table = s.rds.working table := by
  by_cases hchanges : op.changes .working = false
  · exact congrFun (@exec_part world op .working hchanges s) table
  cases op with
  | write t statement =>
    cases hfailure : world.failure s (.write t statement) with
    | some e => rw [World.exec_of_failure hfailure]
    | none =>
      rw [World.exec_of_answer hfailure]
      simp only [World.answer]
      split
      · exact Rds.setTable_other _ (Ne.symm h) _
      · rfl
  | connect | commit | rollback | close => cases h
  | _ => exact absurd rfl hchanges

/-- A transaction leaves a table it does not write. -/
theorem transaction_committed {α : Type} {table : TenantTable} {body : App α}
    (hbody : body.Calls (AppOp.sparesTable table)) (s : AppState) :
    (world.run (transaction body) s).2.rds.committed table = s.rds.committed table := by
  rcases hrun : world.run (transaction body) s with ⟨e | a, t⟩
  · have hcommitted : t.rds.committed = s.rds.committed := by
      refine committed_of_transaction_error (hbody.mono fun op hop => ?_) hrun
      intro heq
      subst heq
      exact hop
    exact congrFun hcommitted table
  · obtain ⟨-, u, hbodyRun, -, rfl⟩ := run_transaction_eq_ok.mp hrun
    have hworking := Prog.run_invariant world.exec
      (I := fun t => t.rds.working table = s.rds.committed table)
      (fun _ t hop ht => (exec_sparesTable hop t).trans ht) hbody
      (rfl : s.connected.rds.working table = _)
    change (world.run body s.connected).2.rds.working table = _ at hworking
    rw [hbodyRun] at hworking
    exact hworking

theorem tenant_of_table {table : TenantTable} (h : tableForTenant tenant = .ok table) :
    tenant = "TenantA" ∧ table = .tenantA ∨ tenant = "TenantB" ∧ table = .tenantB := by
  unfold tableForTenant at h
  split at h
  · cases h
    exact .inl ⟨by assumption, rfl⟩
  split at h
  · cases h
    exact .inr ⟨by assumption, rfl⟩
  · cases h

theorem table_ne {table table' : TenantTable} (hne : tenant' ≠ tenant)
    (h : tableForTenant tenant = .ok table) (h' : tableForTenant tenant' = .ok table') :
    table ≠ table' := by
  rcases tenant_of_table h with ⟨rfl, rfl⟩ | ⟨rfl, rfl⟩ <;>
    rcases tenant_of_table h' with ⟨rfl, rfl⟩ | ⟨rfl, rfl⟩ <;>
    first | exact absurd rfl hne | decide

theorem keyedRows_other_demo (demo : config.demoMode = true) (hne : tenant' ≠ tenant)
    (rows : DemoTable) {tick : Nat} :
    keyedRows config tenant' { s with demoDb := dictSet tenant rows s.demoDb, tick := tick } =
      keyedRows config tenant' s := by
  rw [keyedRows_demo demo, keyedRows_demo demo]
  simp only [lookup_dictSet, if_neg hne]

/-- A transaction on the tenant's table leaves the rows of the others. -/
theorem keyedRows_other_real {α : Type} (demo : config.demoMode = false) (hne : tenant' ≠ tenant)
    {body : TenantTable → App α}
    (hbody : ∀ table table', table ≠ table' → (body table).Calls (AppOp.sparesTable table'))
    (s : AppState) :
    keyedRows config tenant' (world.run (do
      let table ← Prog.ofExcept (tableForTenant tenant)
      transaction (body table)) s).2 = keyedRows config tenant' s := by
  cases htable : tableForTenant tenant with
  | error e => rfl
  | ok table =>
    cases htable' : tableForTenant tenant' with
    | error e =>
      unfold keyedRows
      rw [demo, htable']
      rfl
    | ok table' =>
      rw [keyedRows_real demo htable', keyedRows_real demo htable']
      have hcommitted := @transaction_committed world α table' (body table)
        (hbody table table' (table_ne hne htable htable')) s
      exact congrArg (List.map fun row => (row.userId, row)) hcommitted

theorem upsert_others (hne : tenant' ≠ tenant) (s : AppState) :
    keyedRows config tenant'
        (world.run (upsertUserProfile config tenant userId fields role) s).2 =
      keyedRows config tenant' s := by
  cases demo : config.demoMode with
  | true =>
    rw [upsert_demo demo]
    exact keyedRows_other_demo demo hne _
  | false =>
    unfold upsertUserProfile
    rw [demo]
    refine keyedRows_other_real demo hne (fun table table' htable => ?_) s
    refine Prog.Calls.bind (perform_calls (by trivial)) fun existing => ?_
    cases existing with
    | some _ =>
      show Prog.Calls _ (if _ then _ else _)
      split
      · trivial
      · refine Prog.Calls.bind (perform_calls htable) fun rowcount => ?_
        split <;> trivial
    | none =>
      refine Prog.Calls.bind (perform_calls htable) fun rowcount => ?_
      split <;> trivial

theorem createUserRecord_others (hne : tenant' ≠ tenant) (s : AppState) :
    keyedRows config tenant'
        (world.run (createUserRecord config tenant userId username email role) s).2 =
      keyedRows config tenant' s := by
  cases demo : config.demoMode with
  | true =>
    unfold createUserRecord
    rw [if_pos demo, World.run_bind_ok (run_demoRows tenant s)]
    exact keyedRows_other_demo demo hne _
  | false =>
    unfold createUserRecord
    rw [demo]
    refine keyedRows_other_real demo hne (fun table table' htable => ?_) s
    exact Prog.Calls.bind (perform_calls htable) fun _ => trivial

end Puts

/-! ## Rows put in one tenant's table -/

section OneTenant

variable {config : Config} {world : World} {tenant tenant' : String} {s t : AppState}

/-- A put leaves the keys of every tenant. -/
theorem keepsKey_of_put {key : String} {new : UserRow} {change : UserRow → UserRow}
    (others : ∀ tenant', tenant' ≠ tenant →
      keyedRows config tenant' t = keyedRows config tenant' s)
    (hput : Put (keyText config world) key new change (keyedRows config tenant s)
      (keyedRows config tenant t)) {entry : String × UserRow}
    (hentry : entry ∈ keyedRows config tenant' s) :
    ∃ entry' ∈ keyedRows config tenant' t, entry'.1 = entry.1 := by
  by_cases htenant : tenant' = tenant
  · subst htenant
    exact hput.keeps_key hentry
  · rw [others tenant' htenant]
    exact ⟨entry, hentry, rfl⟩

/-- The rows of every tenant are under their ids as long as those of one tenant are. -/
theorem RowsKeyed.of_others (keyed : RowsKeyed config world tenant' s)
    (others : ∀ tenant', tenant' ≠ tenant →
      keyedRows config tenant' t = keyedRows config tenant' s)
    (here : RowsKeyed config world tenant s → RowsKeyed config world tenant t) :
    RowsKeyed config world tenant' t := by
  by_cases htenant : tenant' = tenant
  · subst htenant
    exact here keyed
  · refine ⟨?_, ?_⟩
    · rw [others tenant' htenant]
      exact keyed.keyed
    · rw [others tenant' htenant]
      exact keyed.userId

end OneTenant

end TenantSaas
