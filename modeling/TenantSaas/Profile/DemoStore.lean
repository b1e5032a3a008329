import TenantSaas.Profile.RowCalls

/-!
# `_demo_db` stands in for MySQL

`_demo_db` does what a dictionary of rows does, too; so what was done on MySQL can be done on it.
-/

namespace TenantSaas

open Entries Refinement

/-! ## What `_demo_db` does -/

section Demo

variable {config : Config} {names : String → Prop} {visit : RdsVisit} {s : AppState}

theorem keyedRows_own_demo {tenant : String} (demo : config.demoMode = true) (rows : DemoTable)
    {tick : Nat} :
    keyedRows config tenant { s with demoDb := dictSet tenant rows s.demoDb, tick := tick } =
      rows := by
  rw [keyedRows_demo demo]
  simp only [lookup_dictSet, if_true, Option.getD_some]

theorem run_changeDemoRow_rows (world : World) (demo : config.demoMode = true)
    (tenant userId : String) (f : UserRow → UserRow) (s : AppState) :
    ∃ t, world.run (changeDemoRow tenant userId f) s = (.ok (), t) ∧
      (((keyedRows config tenant s).map Prod.fst).Nodup →
        keyedRows config tenant t = changeAt userId f (keyedRows config tenant s)) ∧
      ∀ tenant', tenant' ≠ tenant → keyedRows config tenant' t = keyedRows config tenant' s := by
  unfold changeDemoRow
  rw [World.run_bind_ok (run_demoRows tenant s), ← keyedRows_demo demo]
  cases hlookup : (keyedRows config tenant s).lookup userId with
  | none => exact ⟨_, rfl, fun _ => (changeAt_of_missing hlookup).symm, fun _ _ => rfl⟩
  | some row =>
    refine ⟨_, rfl, fun hkeys => ?_, fun tenant' hne => keyedRows_other_demo demo hne _⟩
    exact (keyedRows_own_demo demo _).trans (dictSet_of_found f hkeys hlookup)

theorem run_deleteDemoRow_rows (world : World) (demo : config.demoMode = true)
    (tenant userId : String) (s : AppState) :
    ∃ t, world.run (deleteUserRecord config tenant userId true) s = (.ok (), t) ∧
      keyedRows config tenant t = dictPop userId (keyedRows config tenant s) ∧
      ∀ tenant', tenant' ≠ tenant → keyedRows config tenant' t = keyedRows config tenant' s := by
  have hrows : world.run (perform (.demoTable tenant)) s =
    (.ok (s.demoDb.lookup tenant), { s with tick := s.tick + 1 }) := rfl
  unfold deleteUserRecord
  rw [if_pos demo, if_pos rfl, World.run_bind_ok hrows, keyedRows_demo demo]
  cases hlookup : s.demoDb.lookup tenant with
  | none =>
    refine ⟨_, rfl, ?_, fun _ _ => rfl⟩
    rw [keyedRows_demo demo, hlookup]
    rfl
  | some rows =>
    exact ⟨_, rfl, keyedRows_own_demo demo _, fun tenant' hne => keyedRows_other_demo demo hne _⟩

theorem run_bind_congr {α β : Type} {world : World} {p q : App α} {f : α → App β} {s u : AppState}
    (h : world.run p s = world.run q u) : world.run (p >>= f) s = world.run (q >>= f) u := by
  rw [World.run] at h ⊢
  rw [Prog.bind_def, Prog.bind_def, World.run, Prog.run_bind, Prog.run_bind, h]

theorem run_markDemoRow {world : World} {tenant : String} (demo : config.demoMode = true)
    (userId : String) (s : AppState) :
    world.run (markPasswordChanged config tenant userId) s =
      world.run (changeDemoRow tenant userId fun row =>
        { row with passwordLastChanged := some (world.today s.tick), firstLogin := false })
        { s with tick := s.tick + 1 } := by
  have hread : world.run (perform .today) s =
    (.ok (world.today s.tick), { s with tick := s.tick + 1 }) := rfl
  unfold markPasswordChanged
  rw [World.run_bind_ok hread, if_pos demo]

/-- A call that changes a record in place. -/
theorem demo_changed (demo : config.demoMode = true) (visit : RdsVisit) {s : AppState}
    (htable : ∃ table, tableForTenant visit.tenant = .ok table) (userId : String)
    (f : UserRow → UserRow) (u : AppState)
    (hrun : visit.run config s = visit.world.run (do
      changeDemoRow visit.tenant userId f
      pure none) u)
    (hsame : ∀ tenant, keyedRows config tenant u = keyedRows config tenant s)
    (hcall : ∀ rows, visit.call.effect (visit.world.today 0) rows = changeAt userId f rows)
    (hnone : ∀ rows, visit.call.answer rows = none)
    (hf : ∀ row, (f row).filled = f row.filled) :
    ∃ answer t, visit.run config s = (.ok answer, t) ∧
      (NamedRows names (keyedRows config visit.tenant s) → Done config visit s answer t) := by
  obtain ⟨t, hchange, hown, hothers⟩ :=
    run_changeDemoRow_rows visit.world demo visit.tenant userId f u
  refine ⟨none, t, hrun.trans (World.run_bind_ok hchange), fun hrows => ?_⟩
  rw [hsame] at hown
  have hkept : ∀ tenant, tenant ≠ visit.tenant →
      keyedRows config tenant t = keyedRows config tenant s :=
    fun tenant hne => (hothers tenant hne).trans (hsame tenant)
  exact .of_changed htable (hown hrows.keys) hkept hcall hnone hf

/-- What a call on `_demo_db` returns, and the rows after it. -/
theorem demo_done (demo : config.demoMode = true) (hclear : visit.Clear names)
    (htable : ∃ table, tableForTenant visit.tenant = .ok table) (s : AppState) :
    ∃ answer t, visit.run config s = (.ok answer, t) ∧
      (NamedRows names (keyedRows config visit.tenant s) → Done config visit s answer t) := by
  obtain ⟨world, tenant, call⟩ := visit
  have hfound := htable
  obtain ⟨table, hok⟩ := hfound
  cases call with
  | getUserById userId =>
    refine ⟨_, { s with tick := s.tick + 1 }, ?_, fun _ => .of_kept htable rfl (fun _ => rfl)
      fun _ => rfl⟩
    simp only [RdsVisit.run, RdsCall.run, getUserById, hok, demo, RdsCall.answer,
      keyedRows_demo demo]
    rfl
  | getUserByUsername username =>
    refine ⟨_, { s with tick := s.tick + 1 }, ?_, fun _ => .of_kept htable rfl (fun _ => rfl)
      fun _ => rfl⟩
    simp only [RdsVisit.run, RdsCall.run, getUserByUsername, hok, demo, RdsCall.answer,
      keyedRows_demo demo]
    rfl
  | upsertUserProfile userId fields role =>
    refine ⟨none, _, World.run_bind_ok (upsert_demo demo fields role s), fun hrows => ?_⟩
    refine ⟨htable, rfl, ?_, fun tenant' hne => keyedRows_other_demo demo hne _⟩
    rw [keyedRows_own_demo demo, ← keyedRows_demo demo,
      dictSet_eq_addOrChange (fun row => row.setAll (editable fields)) hrows.keys,
      setAll_newDemoRow, map_addOrChange (fun row => row.setAll (editable fields))
        (fun row => filled_setAll row _), filled_setAll]
    rfl
  | createUserRecord userId username email role =>
    have hrun : world.run (createUserRecord config tenant userId username email role) s =
        (.ok (), { s with
          demoDb := dictSet tenant (dictSet userId (newDemoRow userId username email role)
            (keyedRows config tenant s)) s.demoDb
          tick := s.tick + 2 }) := by
      unfold createUserRecord
      rw [if_pos demo, World.run_bind_ok (run_demoRows tenant s), ← keyedRows_demo demo]
      rfl
    refine ⟨none, _, World.run_bind_ok hrun, fun hrows => ?_⟩
    refine ⟨htable, rfl, ?_, fun tenant' hne => keyedRows_other_demo demo hne _⟩
    rw [keyedRows_own_demo demo, dictSet_eq_addOrChange
      (fun _ => newDemoRow userId username email role) hrows.keys (newDemoRow userId "" "" role),
      map_addOrChange (fun _ => (newDemoRow userId username email role).filled) fun _ => rfl]
    rfl
  | deleteUserRecord userId hardDelete =>
    cases hardDelete with
    | true =>
      obtain ⟨t, hrun, hown, hothers⟩ := run_deleteDemoRow_rows world demo tenant userId s
      refine ⟨none, t, World.run_bind_ok hrun, fun _ => ⟨htable, rfl, ?_, hothers⟩⟩
      rw [hown]
      exact (dictPop_filled _).symm
    | false =>
      refine demo_changed demo _ htable userId (fun row => { row with enabled := false }) s ?_
        (fun _ => rfl) (fun _ => rfl) (fun _ => rfl) fun _ => rfl
      simp only [RdsVisit.run, RdsCall.run, deleteUserRecord, demo]
      rfl
  | setUserEnabled userId enabled =>
    refine demo_changed demo _ htable userId (fun row => { row with enabled := enabled }) s ?_
      (fun _ => rfl) (fun _ => rfl) (fun _ => rfl) fun _ => rfl
    simp only [RdsVisit.run, RdsCall.run, setUserEnabled, demo]
    rfl
  | markPasswordChanged userId =>
    refine demo_changed demo ⟨world, tenant, .markPasswordChanged userId⟩ htable userId
      (fun row => { row with passwordLastChanged := some (world.today 0), firstLogin := false })
      { s with tick := s.tick + 1 } (run_bind_congr ?_) (fun _ => rfl) (fun _ => rfl)
      (fun _ => rfl) fun _ => rfl
    have htoday : world.today s.tick = world.today 0 := hclear.oneDay s.tick
    rw [run_markDemoRow demo, htoday]

end Demo

/-! ## Replaying what MySQL did -/

section Replay

variable {config demoConfig : Config} {names : String → Prop} {fields : List (String × String)}

theorem named_setAll {row : UserRow}
    (hfields : ∀ field ∈ fields, field.1 = "username" → names field.2)
    (h : names row.username) : names (row.setAll fields).username := by
  induction fields generalizing row with
  | nil => exact h
  | cons field fields ih =>
    rw [List.forall_mem_cons] at hfields
    refine ih hfields.2 ?_
    unfold UserRow.set
    by_cases hname : field.1 = "username"
    · rw [if_pos hname]
      exact hfields.1 hname
    · rw [if_neg hname]
      split_ifs <;> exact h

theorem effect_named {call : RdsCall} {rows : DemoTable} (hcall : call.Named names)
    (h : NamedRows names rows) (today : String) : NamedRows names (call.effect today rows) := by
  cases call with
  | getUserById userId => exact h
  | getUserByUsername username => exact h
  | upsertUserProfile userId fields role =>
    have hset : ∀ row : UserRow, names row.username →
        names (row.setAll (editable fields)).username := fun row =>
      named_setAll fun field hfield => hcall.2 field (List.mem_filter.mp hfield).1
    exact h.addOrChange hcall.1 (hset _ hcall.1) hset
  | createUserRecord userId username email role =>
    exact h.addOrChange hcall.1 hcall.2 fun _ _ => hcall.2
  | deleteUserRecord userId hardDelete =>
    cases hardDelete with
    | true =>
      refine ⟨?_, fun entry hentry => h.key entry (List.mem_filter.mp hentry).1,
        fun entry hentry => h.username entry (List.mem_filter.mp hentry).1⟩
      exact h.keys.sublist (List.filter_sublist.map _)
    | false =>
      rw [RdsCall.effect]
      exact h.changeAt fun _ => id
  | setUserEnabled userId enabled =>
    rw [RdsCall.effect]
    exact h.changeAt fun _ => id
  | markPasswordChanged userId =>
    rw [RdsCall.effect]
    exact h.changeAt fun _ => id

theorem dictionaries_keeps (visit : RdsVisit) (rows : String → DemoTable)
    (hclear : visit.Clear names) (h : ∀ tenant, NamedRows names (rows tenant)) :
    ∀ tenant, NamedRows names (dictionaries.effect visit rows tenant) := by
  intro tenant
  by_cases htenant : tenant = visit.tenant
  · subst htenant
    simp only [dictionaries, Function.update_self]
    exact effect_named hclear.named (h _) _
  · simp only [dictionaries, Function.update_of_ne htenant]
    exact h tenant

/-- MySQL keeps a dictionary of rows for each tenant. -/
theorem real_refines (rds : config.demoMode = false) (hempty : ¬ names "") :
    Refines dictionaries (RdsVisit.run config) (tenantRows config) (Option.map UserRow.filled)
      (RdsVisit.Clear names) (fun rows => ∀ tenant, NamedRows names (rows tenant)) where
  returns hclear hrows h :=
    (real_done rds hempty hclear (namedRows_of_tenantRows rds (hrows _)) h).refines
  raises _ h := funext fun tenant => tenantRows_congr (real_raised rds h tenant)

/-- A call that `_demo_db` is asked for a tenant with a table. -/
def RdsVisit.Admitted (names : String → Prop) (visit : RdsVisit) : Prop :=
  visit.Clear names ∧ ∃ table, tableForTenant visit.tenant = .ok table

theorem demo_total (demo : demoConfig.demoMode = true) (visit : RdsVisit) (s : AppState)
    (h : visit.Admitted names) : ∃ answer t, visit.run demoConfig s = (.ok answer, t) := by
  obtain ⟨answer, t, hrun, -⟩ := demo_done demo h.1 h.2 s
  exact ⟨answer, t, hrun⟩

/-- So does `_demo_db`. -/
theorem demo_refines (demo : demoConfig.demoMode = true) :
    Refines dictionaries (RdsVisit.run demoConfig) (tenantRows demoConfig)
      (Option.map UserRow.filled) (RdsVisit.Admitted names)
      (fun rows => ∀ tenant, NamedRows names (rows tenant)) where
  returns := by
    intro visit s answer t hvisit hrows h
    obtain ⟨answer', t', hrun, hdone⟩ := demo_done demo hvisit.1 hvisit.2 s
    rw [h] at hrun
    cases hrun
    refine (hdone ?_).refines
    have hnamed := hrows visit.tenant
    rw [tenantRows_of_table hvisit.2] at hnamed
    exact namedRows_filled.mp hnamed
  raises := by
    intro visit s e t hvisit h
    obtain ⟨answer, t', hrun⟩ := demo_total demo visit s hvisit
    rw [h] at hrun
    cases hrun

/-- In DEMO_MODE everything is as it would be on MySQL.  Whatever calls are made on MySQL, each
within one day, whichever of them fail and then have no effect (`COMMIT` too): from a `_demo_db`
with the same rows, those that did not fail return the same, and leave the same rows.  A row has
no `created_at` here and its `DATE` as ISO text, and the columns that a new record leaves out count
as filled in. -/
theorem demo_replays (rds : config.demoMode = false) (demo : demoConfig.demoMode = true)
    (names : String → Prop) (hempty : ¬ names "") (visits : List RdsVisit) (s t : AppState)
    (hclear : ∀ visit ∈ visits, visit.Clear names)
    (hrows : ∀ tenant, NamedRows names (tenantRows config s tenant))
    (hsame : tenantRows demoConfig t = tenantRows config s) :
    let served := serveAll (RdsVisit.run config) visits s
    let replayed := serveAll (RdsVisit.run demoConfig) ((returned served.1).map Prod.fst) t
    replayed.1.map (Prod.map id (Except.map (Option.map UserRow.filled))) =
        (returned served.1).map (Prod.map id fun answer => .ok (answer.map UserRow.filled)) ∧
      tenantRows demoConfig replayed.2 = tenantRows config served.2 := by
  refine replays (real_refines rds hempty) (demo_refines demo)
    (fun visit rows hvisit => dictionaries_keeps visit rows hvisit) ?_ (demo_total demo)
    (fun _ => And.left) hclear hrows hsame
  intro visit u answer v hvisit hrun
  exact ⟨hvisit, table_of_returned rds hrun⟩

end Replay

/-! ## An account that is made twice -/

section Example

def bobNames (name : String) : Prop := name ∈ ["u-8", "u-9", "bob"]

def bobCall (call : RdsCall) : RdsVisit := ⟨quietWorld, "TenantA", call⟩

/-- The second account has the username of the first, which MySQL refuses. -/
def bobVisits : List RdsVisit :=
  [bobCall (.createUserRecord "u-8" "bob" "bob@a.example" "user"),
    bobCall (.createUserRecord "u-9" "bob" "bob@a.example" "admin"),
    bobCall (.upsertUserProfile "u-8" [("department", "Sales")] "user"),
    bobCall (.getUserByUsername (some "bob"))]

theorem bobVisits_clear : ∀ visit ∈ bobVisits, visit.Clear bobNames := by
  have htold : ∀ a b, bobNames a → bobNames b → quietWorld.mysql.collate a =
    quietWorld.mysql.collate b → a = b := fun _ _ _ _ h => h
  intro visit hvisit
  simp only [bobVisits, List.mem_cons, List.not_mem_nil, or_false] at hvisit
  rcases hvisit with rfl | rfl | rfl | rfl
  all_goals exact ⟨htold, by simp [bobCall, RdsCall.Named, bobNames], fun _ => rfl⟩

def demoStoreConfig : Config := { sampleConfig with demoMode := true }

theorem tenantRows_empty (config : Config) (tenant : String) :
    tenantRows config emptyState tenant = [] := by
  unfold tenantRows keyedRows
  cases tableForTenant tenant with
  | error e => rfl
  | ok table => cases config.demoMode <;> rfl

/-- `_demo_db` comes to the same rows without the call that MySQL refused. -/
theorem bob_replayed :
    tenantRows demoStoreConfig
        (serveAll (RdsVisit.run demoStoreConfig) (bobVisits.eraseIdx 1) emptyState).2 =
      tenantRows sampleConfig (serveAll (RdsVisit.run sampleConfig) bobVisits emptyState).2 := by
  have rds : sampleConfig.demoMode = false := rfl
  have demo : demoStoreConfig.demoMode = true := rfl
  have hrows : ∀ tenant, NamedRows bobNames (tenantRows sampleConfig emptyState tenant) := by
    intro tenant
    rw [tenantRows_empty]
    exact ⟨List.nodup_nil, fun _ h => (by cases h), fun _ h => (by cases h)⟩
  have hsame : tenantRows demoStoreConfig emptyState = tenantRows sampleConfig emptyState := by
    funext tenant
    rw [tenantRows_empty, tenantRows_empty]
  exact (demo_replays rds demo bobNames (by simp [bobNames]) bobVisits emptyState emptyState
    bobVisits_clear hrows hsame).2

end Example

end TenantSaas
