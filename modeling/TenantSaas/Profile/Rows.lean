import TenantSaas.Services.Transactions

/-!
# The row of a user

Where a tenant's rows are, with the ids they are found by, and what the functions on one row
do to them.
-/

namespace TenantSaas

/-- Whether two texts are the same to the store: the column's collation, or `==` on `str`. -/
def sameText (config : Config) (world : World) (a b : String) : Bool :=
  if config.demoMode then a == b else world.mysql.eq a b

/-- What the store compares of a text. -/
def keyText (config : Config) (world : World) (text : String) : String :=
  if config.demoMode then text else world.mysql.collate text

theorem sameText_iff {config : Config} {world : World} {a b : String} :
    sameText config world a b = true ↔ keyText config world a = keyText config world b := by
  unfold sameText keyText
  cases config.demoMode with
  | true => exact beq_iff_eq
  | false => exact beq_iff_eq

/-- The rows of a tenant under their ids. -/
def keyedRows (config : Config) (tenant : String) (s : AppState) : List (String × UserRow) :=
  if config.demoMode then (s.demoDb.lookup tenant).getD []
  else
    match tableForTenant tenant with
    | .ok table => (s.rds.committed table).map fun row => (row.userId, row)
    | .error _ => []

/-- The row a user id finds. -/
def storedRow (config : Config) (world : World) (tenant userId : String) (s : AppState) :
    Option UserRow :=
  ((keyedRows config tenant s).find? fun entry => sameText config world entry.1 userId).map Prod.snd

/-- The row a username finds. -/
def namedRow (config : Config) (world : World) (tenant username : String) (s : AppState) :
    Option UserRow :=
  ((keyedRows config tenant s).find? fun entry =>
    sameText config world entry.2.username username).map Prod.snd

section Rows

variable {config : Config} {world : World} {tenant userId : String} {s t : AppState}

theorem find?_key {α : Type} (key : String) (entries : List (String × α)) :
    (entries.find? fun entry => entry.1 == key).map Prod.snd = entries.lookup key := by
  induction entries with
  | nil => rfl
  | cons entry entries ih =>
    rw [lookup_entry, List.find?_cons]
    by_cases hentry : entry.1 = key
    · simp [hentry]
    · rw [beq_false_of_ne hentry, if_neg (Ne.symm hentry)]
      exact ih

theorem storedRow_demo (demo : config.demoMode = true) :
    storedRow config world tenant userId s = ((s.demoDb.lookup tenant).getD []).lookup userId := by
  simp only [storedRow, keyedRows, sameText, demo, if_true]
  exact find?_key userId _

theorem storedRow_real (demo : config.demoMode = false) {table : TenantTable}
    (htable : tableForTenant tenant = .ok table) :
    storedRow config world tenant userId s =
      (s.rds.committed table).find? fun row => world.mysql.eq row.userId userId := by
  simp only [storedRow, keyedRows, sameText, demo, Bool.false_eq_true, if_false, htable,
    List.find?_map, Option.map_map]
  exact congrFun Option.map_id _

/-! ## What leaves the rows alone -/

/-- The calls that neither commit nor write `_demo_db`. -/
def AppOp.keepsRows (op : AppOp) : Bool := !op.changes .committed && !op.changes .demoDb

theorem exec_keyedRows {op : AppOp} (h : op.keepsRows = true) (s : AppState) :
    keyedRows config tenant (world.exec s op).2 = keyedRows config tenant s := by
  simp only [AppOp.keepsRows, Bool.and_eq_true, Bool.not_eq_true'] at h
  have hcommitted : (world.exec s op).2.rds.committed = s.rds.committed :=
    @exec_part world op .committed h.1 s
  have hdemoDb : (world.exec s op).2.demoDb = s.demoDb := @exec_part world op .demoDb h.2 s
  unfold keyedRows
  rw [hcommitted, hdemoDb]

theorem run_keyedRows {α : Type} {p : App α} (hp : p.Calls fun op => op.keepsRows = true)
    (s : AppState) : keyedRows config tenant (world.run p s).2 = keyedRows config tenant s :=
  Prog.run_frame world.exec (fun _ s hop => exec_keyedRows hop s) hp s

theorem storedRow_congr (h : keyedRows config tenant s = keyedRows config tenant t) :
    storedRow config world tenant userId s = storedRow config world tenant userId t := by
  unfold storedRow
  rw [h]

/-! ## Reading a row -/

theorem getUserById_keepsRows (userId : String) :
    (getUserById config tenant userId).Calls fun op => op.keepsRows = true := by
  refine Prog.Calls.ofExcept_bind fun table htable => ?_
  split
  · exact Prog.Calls.bind (Prog.Calls.bind (perform_calls (by rfl)) fun _ => by trivial)
      fun _ => by trivial
  split
  · trivial
  · refine Prog.Calls.bind (perform_calls (by rfl)) fun _ => ?_
    refine Prog.Calls.finally' ?_ (perform_calls (by rfl))
    exact Prog.Calls.bind (perform_calls (by rfl)) fun _ => by trivial

theorem getUserByUsername_keepsRows (username : Option String) :
    (getUserByUsername config tenant username).Calls fun op => op.keepsRows = true := by
  refine Prog.Calls.ofExcept_bind fun table htable => ?_
  split
  · exact Prog.Calls.bind (Prog.Calls.bind (perform_calls (by rfl)) fun _ => by trivial)
      fun _ => by trivial
  cases username with
  | none => trivial
  | some username =>
    show Prog.Calls _ (if _ then _ else _)
    split
    · trivial
    · refine Prog.Calls.bind (perform_calls (by rfl)) fun _ => ?_
      refine Prog.Calls.finally' ?_ (perform_calls (by rfl))
      exact Prog.Calls.bind (perform_calls (by rfl)) fun _ => by trivial

/-- A row is stored under a user id when an entry has a key like it. -/
theorem storedRow_ne_none : storedRow config world tenant userId s ≠ none ↔
    ∃ entry ∈ keyedRows config tenant s,
      keyText config world entry.1 = keyText config world userId := by
  unfold storedRow
  rw [Ne, Option.map_eq_none_iff, List.find?_eq_none]
  simp only [sameText_iff, not_forall, not_not, exists_prop]

theorem namedRow_ne_none {username : String} : namedRow config world tenant username s ≠ none ↔
    ∃ entry ∈ keyedRows config tenant s,
      keyText config world entry.2.username = keyText config world username := by
  unfold namedRow
  rw [Ne, Option.map_eq_none_iff, List.find?_eq_none]
  simp only [sameText_iff, not_forall, not_not, exists_prop]

theorem run_demoRows (tenant : String) (s : AppState) : world.run (demoRows tenant) s =
    (.ok ((s.demoDb.lookup tenant).getD []), { s with tick := s.tick + 1 }) := rfl

/-- A query that returns shows what is committed. -/
theorem select_eq {table : TenantTable} {query : RowQuery} {record : Option UserRow}
    (h : world.run (withConnection do
      let rows ← perform (.select table query)
      pure rows.head?) s = (.ok record, t)) :
    record = (world.mysql.select (s.rds.committed table) query).head? := by
  cases hconnect : world.failure s .connect with
  | some e =>
    rw [run_withConnection_of_failure hconnect] at h
    cases h
  | none =>
    rw [run_withConnection hconnect] at h
    rcases hbody : world.run (do
      let rows ← perform (.select table query)
      pure rows.head?) s.connected with ⟨e | value, u⟩
    · rw [hbody] at h
      cases h
    · rw [hbody] at h
      obtain ⟨rows, v, hselect, hret⟩ := World.run_bind_eq_ok.mp hbody
      rw [World.run_perform] at hselect
      obtain ⟨-, hanswer, -⟩ := World.answer_of_exec hselect
      cases hret
      cases h
      exact congrArg List.head? (Except.ok.inj hanswer).symm

/-- What `get_user_by_id` returns is the stored row. -/
theorem getUserById_eq (hid : userId ≠ "") {record : Option UserRow}
    (h : world.run (getUserById config tenant userId) s = (.ok record, t)) :
    record = storedRow config world tenant userId s := by
  unfold getUserById at h
  cases htable : tableForTenant tenant with
  | error e =>
    rw [htable] at h
    cases h
  | ok table =>
    rw [htable] at h
    change world.run (if _ then _ else if _ then _ else _) s = _ at h
    by_cases hdemo : config.demoMode = true
    · rw [if_pos hdemo, World.run_bind_ok (run_demoRows tenant s)] at h
      rw [storedRow_demo hdemo]
      exact (Except.ok.inj (Prod.mk.inj h).1).symm
    · rw [if_neg hdemo, if_neg hid] at h
      rw [storedRow_real (by simpa using hdemo) htable, select_eq h]
      exact List.head?_filter

/-- What `get_user_by_username` returns is the row of that name. -/
theorem getUserByUsername_eq {username : String} (hname : username ≠ "") {record : Option UserRow}
    (h : world.run (getUserByUsername config tenant (some username)) s = (.ok record, t)) :
    record = namedRow config world tenant username s := by
  unfold getUserByUsername at h
  cases htable : tableForTenant tenant with
  | error e =>
    rw [htable] at h
    cases h
  | ok table =>
    rw [htable] at h
    change world.run (if _ then _ else if _ then _ else _) s = _ at h
    by_cases hdemo : config.demoMode = true
    · rw [if_pos hdemo, World.run_bind_ok (run_demoRows tenant s)] at h
      have hrecord := (Except.ok.inj (Prod.mk.inj h).1).symm
      rw [hrecord, List.find?_map]
      simp only [namedRow, keyedRows, sameText, hdemo, if_true]
      rfl
    · rw [if_neg hdemo, if_neg hname] at h
      have hproduction : config.demoMode = false := by simpa using hdemo
      simp only [namedRow, keyedRows, sameText, hproduction, Bool.false_eq_true, if_false, htable,
        List.find?_map, Option.map_map]
      rw [select_eq h]
      exact List.head?_filter.trans (congrFun Option.map_id _).symm

/-! ## Writing a row -/

theorem set_userId (row : UserRow) (column value : String) :
    (row.set column value).userId = row.userId := by
  unfold UserRow.set
  repeat' split
  all_goals rfl

theorem setAll_userId (row : UserRow) (fields : List (String × String)) :
    (row.setAll fields).userId = row.userId := by
  induction fields generalizing row with
  | nil => rfl
  | cons field fields ih =>
    unfold UserRow.setAll
    rw [ih, set_userId]

theorem write_eq {table : TenantTable} {statement : RowWrite} {count : Nat}
    (h : world.run (perform (.write table statement)) s = (.ok count, t)) :
    ∃ rows, world.mysql.apply (s.rds.working table) statement = .ok (count, rows) ∧
      t.rds.working = Rds.setTable s.rds.working table rows := by
  rw [World.run_perform] at h
  obtain ⟨-, hanswer, rfl⟩ := World.answer_of_exec h
  simp only [World.answer] at hanswer ⊢
  cases happly : world.mysql.apply (s.rds.working table) statement with
  | error e =>
    rw [happly] at hanswer
    cases hanswer
  | ok result =>
    rw [happly] at hanswer
    cases hanswer
    exact ⟨result.2, rfl, rfl⟩

/-- A statement that went through made the table what it is. -/
theorem writeRecord_ok {statement : RowWrite}
    (h : world.run (writeRecord tenant statement) s = (.ok (), t)) :
    ∃ table count rows, tableForTenant tenant = .ok table ∧
      world.mysql.apply (s.rds.committed table) statement = .ok (count, rows) ∧
      t.rds.committed = Rds.setTable s.rds.committed table rows := by
  unfold writeRecord at h
  cases htable : tableForTenant tenant with
  | error e =>
    rw [htable] at h
    cases h
  | ok table =>
    rw [htable] at h
    obtain ⟨-, u, hbody, -, rfl⟩ := run_transaction_eq_ok.mp h
    obtain ⟨count, v, hwrite, hret⟩ := World.run_bind_eq_ok.mp hbody
    cases hret
    obtain ⟨rows, happly, hworking⟩ := write_eq hwrite
    exact ⟨table, count, rows, rfl, happly, hworking⟩

/-- A statement that did not leaves the tables. -/
theorem writeRecord_error {statement : RowWrite} {e : PyError}
    (h : world.run (writeRecord tenant statement) s = (.error e, t)) :
    t.rds.committed = s.rds.committed := by
  unfold writeRecord at h
  cases htable : tableForTenant tenant with
  | error e =>
    rw [htable] at h
    cases h
    rfl
  | ok table =>
    rw [htable] at h
    exact committed_of_transaction_error write_calls_noCommit h

theorem apply_insert {mysql : MySql} {rows rows' : Table} {row : UserRow} {count : Nat}
    (h : mysql.apply rows (.insert row) = .ok (count, rows')) :
    mysql.fresh rows row = true ∧ rows' = rows ++ [row] := by
  simp only [MySql.apply] at h
  split at h
  · cases h
  split at h
  · rename_i hfresh
    cases h
    exact ⟨hfresh, rfl⟩
  · cases h

theorem apply_updateProfile {mysql : MySql} {rows rows' : Table} {userId : String}
    {fields : List (String × String)} {count : Nat}
    (h : mysql.apply rows (.updateProfile userId fields) = .ok (count, rows')) :
    rows' = rows.map fun row => if mysql.eq row.userId userId then row.setAll fields else row := by
  simp only [MySql.apply] at h
  split at h
  · cases h
  split at h
  · cases h
    rfl
  · cases h

/-- The statements of a save that returned. -/
theorem upsert_writes (demo : config.demoMode = false) {fields : List (String × String)}
    {role : String} {table : TenantTable} (htable : tableForTenant tenant = .ok table)
    (h : world.run (upsertUserProfile config tenant userId fields role) s = (.ok (), t)) :
    (∃ row, ((s.rds.committed table).find? fun row => world.mysql.eq row.userId userId) =
        some row ∧
      (editable fields = [] ∧ t.rds.committed table = s.rds.committed table ∨
        editable fields ≠ [] ∧ ∃ count ≠ 0, world.mysql.apply (s.rds.committed table)
          (.updateProfile userId (editable fields)) = .ok (count, t.rds.committed table))) ∨
      ((s.rds.committed table).find? fun row => world.mysql.eq row.userId userId) = none ∧
        ∃ count ≠ 0, world.mysql.apply (s.rds.committed table)
          (.insert ((UserRow.withDefaults userId userId "" role).setAll (editable fields))) =
            .ok (count, t.rds.committed table) := by
  unfold upsertUserProfile at h
  rw [demo, htable] at h
  obtain ⟨hconnect, u, hbody, hcommit, rfl⟩ := run_transaction_eq_ok.mp h
  simp only [Rds.commit]
  obtain ⟨existing, v, hselect, hwrite⟩ := World.run_bind_eq_ok.mp hbody
  rw [World.run_perform] at hselect
  obtain ⟨-, hanswer, rfl⟩ := World.answer_of_exec hselect
  obtain rfl := Except.ok.inj hanswer
  cases hfound : (s.rds.committed table).find? fun row => world.mysql.eq row.userId userId with
  | some row =>
    left
    simp only [AppState.connected_working, hfound, Option.map_some] at hwrite
    refine ⟨row, rfl, ?_⟩
    split at hwrite
    · rename_i hnone
      cases hwrite
      exact .inl ⟨hnone, rfl⟩
    · rename_i hsome
      obtain ⟨rowcount, w, hupdate, hret⟩ := World.run_bind_eq_ok.mp hwrite
      obtain ⟨rows, happly, hworking⟩ := write_eq hupdate
      split at hret
      · cases hret
      · rename_i hcount
        cases hret
        rw [hworking, Rds.setTable_self]
        exact .inr ⟨hsome, rowcount, hcount, happly⟩
  | none =>
    right
    simp only [AppState.connected_working, hfound, Option.map_none] at hwrite
    obtain ⟨rowcount, w, hinsert, hret⟩ := World.run_bind_eq_ok.mp hwrite
    obtain ⟨rows, happly, hworking⟩ := write_eq hinsert
    split at hret
    · cases hret
    · rename_i hcount
      cases hret
      rw [hworking, Rds.setTable_self]
      exact ⟨rfl, rowcount, hcount, happly⟩

/-- The table after a profile was saved. -/
theorem upsert_real (demo : config.demoMode = false) {fields : List (String × String)}
    {role : String} {table : TenantTable} (htable : tableForTenant tenant = .ok table)
    (h : world.run (upsertUserProfile config tenant userId fields role) s = (.ok (), t)) :
    (∃ row ∈ s.rds.committed table, world.mysql.eq row.userId userId = true) ∧
        t.rds.committed table = (s.rds.committed table).map (fun row =>
          if world.mysql.eq row.userId userId then row.setAll (editable fields) else row) ∨
      (∀ row ∈ s.rds.committed table, world.mysql.eq row.userId userId = false) ∧
        t.rds.committed table = s.rds.committed table ++
          [(UserRow.withDefaults userId userId "" role).setAll (editable fields)] := by
  rcases upsert_writes demo htable h with ⟨row, hfound, hwritten⟩ | ⟨hfound, count, -, happly⟩
  · left
    have hsame := List.find?_some hfound
    refine ⟨⟨row, List.mem_of_find?_eq_some hfound, hsame⟩, ?_⟩
    rcases hwritten with ⟨hnone, hkept⟩ | ⟨-, count, -, happly⟩
    · rw [hkept, hnone]
      simp [UserRow.setAll]
    · exact apply_updateProfile happly
  · right
    refine ⟨fun row hrow => ?_, (apply_insert happly).2⟩
    simpa using List.find?_eq_none.mp hfound row hrow

theorem upsert_demo (demo : config.demoMode = true) (fields : List (String × String))
    (role : String) (s : AppState) :
    world.run (upsertUserProfile config tenant userId fields role) s =
      let rows := (s.demoDb.lookup tenant).getD []
      let record := (rows.lookup userId).getD (newDemoRow userId
        (((editable fields).lookup "username").getD userId)
        (((editable fields).lookup "email").getD "") role)
      (.ok (), { s with
        demoDb := dictSet tenant (dictSet userId (record.setAll (editable fields)) rows) s.demoDb
        tick := s.tick + 2 }) := by
  unfold upsertUserProfile
  rw [demo]
  rfl

theorem find?_update {mysql : MySql} {f : UserRow → UserRow}
    (hf : ∀ row, (f row).userId = row.userId) (rows : Table) :
    ((rows.map fun row => if mysql.eq row.userId userId then f row else row).find? fun row =>
        mysql.eq row.userId userId) =
      (rows.find? fun row => mysql.eq row.userId userId).map f := by
  induction rows with
  | nil => rfl
  | cons row rows ih =>
    rw [List.map_cons, List.find?_cons, List.find?_cons]
    by_cases hsame : mysql.eq row.userId userId = true
    · rw [if_pos hsame, hf, hsame]
      rfl
    · rw [if_neg hsame, Bool.eq_false_iff.mpr hsame]
      exact ih

/-- A profile that was saved is in the user's row. -/
theorem storedRow_of_upsert {fields : List (String × String)} {role : String}
    (h : world.run (upsertUserProfile config tenant userId fields role) s = (.ok (), t)) :
    ∃ old : UserRow,
      storedRow config world tenant userId t = some (old.setAll (editable fields)) := by
  cases hdemo : config.demoMode with
  | true =>
    rw [upsert_demo hdemo] at h
    cases h
    rw [storedRow_demo hdemo]
    simp only [lookup_dictSet, if_true, Option.getD_some]
    exact ⟨_, rfl⟩
  | false =>
    cases htable : tableForTenant tenant with
    | error e =>
      unfold upsertUserProfile at h
      rw [hdemo, htable] at h
      cases h
    | ok table =>
      rw [storedRow_real hdemo htable]
      rcases upsert_real hdemo htable h with ⟨⟨row, hrow, hsame⟩, hrows⟩ | ⟨hnone, hrows⟩
      · rw [hrows, find?_update fun row => setAll_userId row _]
        have hfound : ((s.rds.committed table).find? fun row =>
            world.mysql.eq row.userId userId).isSome = true :=
          List.find?_isSome.mpr ⟨row, hrow, hsame⟩
        obtain ⟨old, hold⟩ := Option.isSome_iff_exists.mp hfound
        rw [hold]
        exact ⟨old, rfl⟩
      · rw [hrows, List.find?_append, List.find?_eq_none.mpr (by simpa using hnone)]
        refine ⟨UserRow.withDefaults userId userId "" role, ?_⟩
        rw [Option.none_or, List.find?_cons_of_pos]
        rw [setAll_userId]
        exact beq_self_eq_true _

/-- A profile that was not saved leaves the rows. -/
theorem keyedRows_of_upsert_error {fields : List (String × String)} {role : String} {e : PyError}
    (h : world.run (upsertUserProfile config tenant userId fields role) s = (.error e, t)) :
    keyedRows config tenant t = keyedRows config tenant s := by
  cases hdemo : config.demoMode with
  | true =>
    rw [upsert_demo hdemo] at h
    cases h
  | false =>
    have hcommitted : t.rds.committed = s.rds.committed := by
      unfold upsertUserProfile at h
      rw [hdemo] at h
      cases htable : tableForTenant tenant with
      | error e' =>
        rw [htable] at h
        cases h
        rfl
      | ok table =>
        rw [htable] at h
        refine committed_of_transaction_error ?_ h
        refine Prog.Calls.bind (perform_calls (by simp)) fun existing => ?_
        cases existing with
        | some _ =>
          show Prog.Calls _ (if _ then _ else _)
          split
          · trivial
          · refine Prog.Calls.bind (perform_calls (by simp)) fun rowcount => ?_
            split <;> trivial
        | none =>
          refine Prog.Calls.bind (perform_calls (by simp)) fun rowcount => ?_
          split <;> trivial
    unfold keyedRows
    simp only [hdemo, Bool.false_eq_true, if_false, hcommitted]

end Rows

end TenantSaas
