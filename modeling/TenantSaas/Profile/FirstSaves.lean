import TenantSaas.App.KeySite
import TenantSaas.Profile.FirstRow

/-!
# First saves in turn

Any number of `upsert_user_profile` transactions for one user without a row, interleaved call by
call under the locks of InnoDB on the user's key.  As long as one is at the key at a time, each
finds what the one before it left.
-/

namespace TenantSaas

/-! ## One save, call by call -/

/-- Saves of one user's profile, one for each request. -/
structure SavesOf (ι : Type) where
  tenant : String
  table : TenantTable
  table_eq : tableForTenant tenant = .ok table
  userId : String
  fields : ι → List (String × String)
  role : ι → String

/-- The calls of a save that succeeds, by what comes next. -/
inductive SaveStage where
  | connecting
  | reading
  | inserting
  | updating
  | committing
  | closing
  | saved
  deriving DecidableEq

/-- The save holds no lock. -/
def SaveStage.outside : SaveStage → Bool
  | .inserting | .updating | .committing => false
  | _ => true

/-- What a transaction has to do after `get_connection()`. -/
def ending (body : App Unit) : App Unit :=
  Prog.finally'
    (tryCatch
      (do
        let a ← body
        perform .commit
        pure a)
      (fun e => do
        perform .rollback
        throw e))
    (perform .close)

namespace SavesOf

variable {ι : Type} (saves : SavesOf ι) (i : ι)

/-- The row of the request's `INSERT`. -/
def row : UserRow := firstRow saves.userId (saves.fields i) (saves.role i)

/-- `rds_service.py:263-280` -/
def insertStep : App Unit := do
  let rowcount ← perform (.write saves.table (.insert (saves.row i)))
  if rowcount = 0 then throw (affectedNothing "INSERT" saves.userId saves.tenant) else pure ()

/-- `rds_service.py:247-261` -/
def updateStep : App Unit := do
  let rowcount ← perform
    (.write saves.table (.updateProfile saves.userId (editable (saves.fields i))))
  if rowcount = 0 then throw (affectedNothing "UPDATE" saves.userId saves.tenant) else pure ()

/-- `rds_service.py:238-280` -/
def readStep : App Unit := do
  let existing ← perform (.selectForUpdate saves.table saves.userId)
  match existing with
  | some _ => if editable (saves.fields i) = [] then pure () else saves.updateStep i
  | none => saves.insertStep i

/-- The calls a save has still to make. -/
def prog : SaveStage → App Unit
  | .connecting => transaction (saves.readStep i)
  | .reading => ending (saves.readStep i)
  | .inserting => ending (saves.insertStep i)
  | .updating => ending (saves.updateStep i)
  | .committing => ending (pure ())
  | .closing => Prog.finally' (pure ()) (perform .close)
  | .saved => pure ()

theorem upsert_eq {config : Config} (demo : config.demoMode = false) :
    upsertUserProfile config saves.tenant saves.userId (saves.fields i) (saves.role i) =
      saves.prog i .connecting := by
  unfold upsertUserProfile
  rw [demo, saves.table_eq]
  show transaction _ = transaction _
  refine congrArg transaction (congrArg (perform _ >>= ·) (funext fun existing => ?_))
  cases existing with
  | none => rfl
  | some _ => rfl

end SavesOf

/-! ## One save at a time -/

namespace KeyFlight.Label

variable {ι : Type}

/-- A save that takes the `INSERT` branch. -/
def isInsert : Label ι → Bool
  | .call _ (.write _ (.insert _)) | .deadlock _ (.write _ (.insert _)) => true
  | _ => false

def commits : Label ι → Option ι
  | .call i .commit => some i
  | _ => none

end KeyFlight.Label

open KeyFlight (Label)

/-- How many saves take the `INSERT` branch. -/
def inserts {ι : Type} (trace : Steps.Trace (KeyFlight ι Unit) (Label ι)) : Nat :=
  trace.countP fun x => x.2.isInsert

/-- The save whose `COMMIT` came last. -/
def lastCommitter {ι : Type} (trace : Steps.Trace (KeyFlight ι Unit) (Label ι)) : Option ι :=
  Steps.last Label.commits trace

section TakeTurns

variable {ι : Type} [DecidableEq ι] (saves : SavesOf ι) (world : World) (rows : Table)

/-- A locking read is made while no other transaction has read that there is no row and is
open, and an `UPDATE` changes the row it finds. -/
def Calm (flight : KeyFlight ι Unit) : Label ι → Prop
  | .call i (.selectForUpdate _ _) => ∀ j, flight.site.locks.gap j = true → j = i
  | .call i (.write table (.updateProfile userId fields)) =>
    ∃ row ∈ flight.site.tables i table, world.mysql.eq row.userId userId = true ∧
      row.setAll fields ≠ row
  | _ => True

/-- The row has the values of a save's fields. -/
def Carries (i : ι) (row : UserRow) : Prop := row.setAll (editable (saves.fields i)) = row

/-- Who is at the user's key, with the tables as they are committed and as the holder of the row
sees them, after `n` saves took the `INSERT` branch. -/
inductive AtKey (stage : ι → SaveStage) : KeyLocks ι → Rds → Nat → Prop where
  | absent (rds : Rds) (outside : ∀ j, (stage j).outside = true)
      (committed : rds.committed saves.table = rows) : AtKey stage .free rds 0
  | present (rds : Rds) (row : UserRow) (outside : ∀ j, (stage j).outside = true)
      (committed : rds.committed saves.table = rows ++ [row])
      (belongs : Belongs world.mysql rows saves.userId row) : AtKey stage .free rds 1
  | inserting (i : ι) (rds : Rds) (inside : stage i = .inserting)
      (outside : ∀ j ≠ i, (stage j).outside = true)
      (committed : rds.committed saves.table = rows) :
      AtKey stage (KeyLocks.free.takeGap i) rds 0
  | updating (i : ι) (rds : Rds) (row : UserRow) (inside : stage i = .updating)
      (outside : ∀ j ≠ i, (stage j).outside = true)
      (working : rds.working saves.table = rows ++ [row])
      (belongs : Belongs world.mysql rows saves.userId row) :
      AtKey stage (KeyLocks.free.takeRecord i) rds 1
  | committing (i : ι) (rds : Rds) (row : UserRow) (inside : stage i = .committing)
      (outside : ∀ j ≠ i, (stage j).outside = true)
      (working : rds.working saves.table = rows ++ [row])
      (belongs : Belongs world.mysql rows saves.userId row) (carries : Carries saves i row) :
      AtKey stage (KeyLocks.free.takeRecord i) rds 1

/-- What is committed is what the last save left. -/
def LastCommitted (last : Option ι) (committed : Table) : Prop :=
  match last with
  | none => committed = rows
  | some k => ∃ row, committed = rows ++ [row] ∧ row.userId = saves.userId ∧ Carries saves k row

structure TakeTurns (trace : Steps.Trace (KeyFlight ι Unit) (Label ι)) (flight : KeyFlight ι Unit)
    (stage : ι → SaveStage) : Prop where
  progs : ∀ i, flight.progs i = saves.prog i (stage i)
  key : AtKey saves world rows stage flight.site.locks flight.site.shared.rds (inserts trace)
  last : LastCommitted saves rows (lastCommitter trace)
    (flight.site.shared.rds.committed saves.table)
  committed : ∀ i, stage i = .closing ∨ stage i = .saved → ∃ x ∈ trace, x.2 = .call i .commit

variable {saves world rows} {trace : Steps.Trace (KeyFlight ι Unit) (Label ι)}
  {flight : KeyFlight ι Unit} {stage : ι → SaveStage} {locks : KeyLocks ι} {rds : Rds} {n : Nat}
  {i : ι}

/-- A save that holds no lock moves on without one. -/
theorem AtKey.outside_step (h : AtKey saves world rows stage locks rds n)
    (hstage : (stage i).outside = true) {next : SaveStage} (hnext : next.outside = true) :
    AtKey saves world rows (Function.update stage i next) locks rds n := by
  have hupdate : ∀ j, (stage j).outside = true →
      (Function.update stage i next j).outside = true := by
    intro j hj
    by_cases hji : j = i
    · rw [hji, Function.update_self]
      exact hnext
    · rw [Function.update_of_ne hji]
      exact hj
  have hinside : ∀ k s, stage k = s → s.outside = false → Function.update stage i next k = s := by
    intro k s hk hs
    rw [Function.update_of_ne _, hk]
    intro heq
    subst heq
    rw [hk, hs] at hstage
    cases hstage
  cases h with
  | absent _ outside committed => exact .absent _ (fun j => hupdate j (outside j)) committed
  | present _ row outside committed belongs =>
    exact .present _ row (fun j => hupdate j (outside j)) committed belongs
  | inserting k _ inside outside committed =>
    exact .inserting k _ (hinside k _ inside rfl) (fun j hj => hupdate j (outside j hj)) committed
  | updating k _ row inside outside working belongs =>
    exact .updating k _ row (hinside k _ inside rfl) (fun j hj => hupdate j (outside j hj)) working
      belongs
  | committing k _ row inside outside working belongs carries =>
    exact .committing k _ row (hinside k _ inside rfl) (fun j hj => hupdate j (outside j hj))
      working belongs carries

theorem AtKey.record_ne (h : AtKey saves world rows stage locks rds n)
    (hstage : (stage i).outside = true) : locks.record ≠ some i := by
  have hne : ∀ k s, stage k = s → s.outside = false → k ≠ i := by
    rintro k s hk hs rfl
    rw [hk, hs] at hstage
    cases hstage
  intro hrecord
  cases h with
  | absent _ outside committed => cases hrecord
  | present _ row outside committed belongs => cases hrecord
  | inserting k _ inside outside committed => cases hrecord
  | updating k _ row inside outside working belongs =>
    exact hne k _ inside rfl (Option.some.inj hrecord)
  | committing k _ row inside outside working belongs carries =>
    exact hne k _ inside rfl (Option.some.inj hrecord)

theorem AtKey.inserts_le (h : AtKey saves world rows stage locks rds n) : n ≤ 1 := by
  cases h <;> omega

theorem AtKey.locks_eq (h : AtKey saves world rows stage locks rds n) :
    locks = .free ∨ (∃ k, locks = KeyLocks.free.takeGap k) ∨
      ∃ k, locks = KeyLocks.free.takeRecord k := by
  cases h with
  | absent _ outside committed => exact .inl rfl
  | present _ row outside committed belongs => exact .inl rfl
  | inserting k _ inside outside committed => exact .inr (.inl ⟨k, rfl⟩)
  | updating k _ row inside outside working belongs => exact .inr (.inr ⟨k, rfl⟩)
  | committing k _ row inside outside working belongs carries => exact .inr (.inr ⟨k, rfl⟩)

/-- Closing takes nothing from whoever is at the key. -/
theorem AtKey.release_outside (h : AtKey saves world rows stage locks rds n)
    (hstage : (stage i).outside = true) : locks.release i = locks := by
  have hne : ∀ k s, stage k = s → s.outside = false → i ≠ k := by
    rintro k s hk hs rfl
    rw [hk, hs] at hstage
    cases hstage
  cases h with
  | absent _ outside committed => exact KeyLocks.free_release i
  | present _ row outside committed belongs => exact KeyLocks.free_release i
  | inserting k _ inside outside committed =>
    exact KeyLocks.takeGap_release_other (hne k _ inside rfl)
  | updating k _ row inside outside working belongs =>
    exact KeyLocks.takeRecord_release_other (hne k _ inside rfl)
  | committing k _ row inside outside working belongs carries =>
    exact KeyLocks.takeRecord_release_other (hne k _ inside rfl)

/-- A save that holds a lock is the only one. -/
theorem AtKey.inside (h : AtKey saves world rows stage locks rds n)
    (hstage : (stage i).outside = false) :
    (∀ j ≠ i, (stage j).outside = true) ∧
      ((stage i = .inserting ∧ locks = KeyLocks.free.takeGap i ∧
          rds.committed saves.table = rows ∧ n = 0) ∨
        (locks = KeyLocks.free.takeRecord i ∧ n = 1 ∧ ∃ row,
          rds.working saves.table = rows ++ [row] ∧ Belongs world.mysql rows saves.userId row ∧
            (stage i = .updating ∨ stage i = .committing ∧ Carries saves i row))) := by
  have hin : ¬ (stage i).outside = true := by simp [hstage]
  cases h with
  | absent _ outside committed => exact absurd (outside i) hin
  | present _ row outside committed belongs => exact absurd (outside i) hin
  | inserting k _ inside outside committed =>
    by_cases hk : i = k
    · subst hk
      exact ⟨outside, .inl ⟨inside, rfl, committed, rfl⟩⟩
    · exact absurd (outside i hk) hin
  | updating k _ row inside outside working belongs =>
    by_cases hk : i = k
    · subst hk
      exact ⟨outside, .inr ⟨rfl, rfl, row, working, belongs, .inl inside⟩⟩
    · exact absurd (outside i hk) hin
  | committing k _ row inside outside working belongs carries =>
    by_cases hk : i = k
    · subst hk
      exact ⟨outside, .inr ⟨rfl, rfl, row, working, belongs, .inr ⟨inside, carries⟩⟩⟩
    · exact absurd (outside i hk) hin

/-- Who has the gap is at its `INSERT`, and there is no row. -/
theorem AtKey.of_gap (h : AtKey saves world rows stage locks rds n) (hgap : locks.gap i = true) :
    stage i = .inserting ∧ rds.committed saves.table = rows := by
  cases h with
  | absent _ outside committed => cases hgap
  | present _ row outside committed belongs => cases hgap
  | inserting k _ inside outside committed =>
    rw [KeyLocks.gap_takeGap hgap]
    exact ⟨inside, committed⟩
  | updating k _ row inside outside working belongs =>
    rw [KeyLocks.gap_takeRecord] at hgap
    cases hgap
  | committing k _ row inside outside working belongs carries =>
    rw [KeyLocks.gap_takeRecord] at hgap
    cases hgap

/-- Who is let in to read, with no other save in the gap, is alone at the key. -/
theorem AtKey.of_read (h : AtKey saves world rows stage locks rds n)
    (hstage : (stage i).outside = true) (hgrants : locks.Grants .read i)
    (hgap : ∀ j, locks.gap j = true → j = i) :
    locks = .free ∧ (∀ j, (stage j).outside = true) ∧
      (rds.committed saves.table = rows ∧ n = 0 ∨ ∃ row,
        rds.committed saves.table = rows ++ [row] ∧ Belongs world.mysql rows saves.userId row ∧
          n = 1) := by
  cases h with
  | absent _ outside committed => exact ⟨rfl, outside, .inl ⟨committed, rfl⟩⟩
  | present _ row outside committed belongs =>
    exact ⟨rfl, outside, .inr ⟨row, committed, belongs, rfl⟩⟩
  | inserting k _ inside outside committed =>
    rw [← hgap k (Function.update_self ..), inside] at hstage
    cases hstage
  | updating k _ row inside outside working belongs =>
    rw [KeyLocks.holder_of_grants hgrants, inside] at hstage
    cases hstage
  | committing k _ row inside outside working belongs carries =>
    rw [KeyLocks.holder_of_grants hgrants, inside] at hstage
    cases hstage

/-- The others stay outside when a save goes to the key. -/
theorem outside_update (h : ∀ j ≠ i, (stage j).outside = true) (next : SaveStage) :
    ∀ j ≠ i, (Function.update stage i next j).outside = true := by
  intro j hj
  rw [Function.update_of_ne hj]
  exact h j hj

/-- What a save has still to do goes by its stage. -/
theorem TakeTurns.prog_eq (h : TakeTurns saves world rows trace flight stage) {s : SaveStage}
    (hstage : stage i = s) {p : App Unit} (hprog : flight.progs i = p) : saves.prog i s = p := by
  rw [← hstage, ← h.progs i, hprog]

/-- The next call of a save, given what it does to the key. -/
theorem TakeTurns.advance (h : TakeTurns saves world rows trace flight stage) {next : SaveStage}
    {label : Label ι} {site : KeySite ι} {p : App Unit} (hp : p = saves.prog i next)
    (key : AtKey saves world rows (Function.update stage i next) site.locks site.shared.rds
      (inserts (trace ++ [(flight, label)])))
    (last : LastCommitted saves rows (lastCommitter (trace ++ [(flight, label)]))
      (site.shared.rds.committed saves.table))
    (committed : next = .closing ∨ next = .saved →
      ∃ x ∈ trace ++ [(flight, label)], x.2 = .call i .commit) :
    TakeTurns saves world rows (trace ++ [(flight, label)])
      ⟨site, Function.update flight.progs i p⟩ (Function.update stage i next) := by
  refine ⟨fun j => ?_, key, last, fun j hj => ?_⟩
  · show Function.update flight.progs i p j = _
    by_cases hji : j = i
    · rw [hji, Function.update_self, Function.update_self, hp]
    · rw [Function.update_of_ne hji, Function.update_of_ne hji, h.progs j]
  · by_cases hji : j = i
    · subst hji
      rw [Function.update_self] at hj
      exact committed hj
    · rw [Function.update_of_ne hji] at hj
      obtain ⟨x, hx, hcommit⟩ := h.committed j hj
      exact ⟨x, List.mem_append_left _ hx, hcommit⟩

omit [DecidableEq ι] in
theorem inserts_snoc {label : Label ι} (h : label.isInsert = false) :
    inserts (trace ++ [(flight, label)]) = inserts trace := by
  simp [inserts, List.countP_append, h]

omit [DecidableEq ι] in
theorem inserts_snoc_insert {label : Label ι} (h : label.isInsert = true) :
    inserts (trace ++ [(flight, label)]) = inserts trace + 1 := by
  simp [inserts, List.countP_append, h]

/-- A step that does not commit. -/
theorem TakeTurns.last_snoc (h : TakeTurns saves world rows trace flight stage) {label : Label ι}
    (hlabel : label.commits = none) {tables : TenantTable → Table}
    (htables : tables = flight.site.shared.rds.committed) :
    LastCommitted saves rows (lastCommitter (trace ++ [(flight, label)])) (tables saves.table) := by
  rw [lastCommitter, Steps.last_snoc_none hlabel, htables]
  exact h.last

section Steps

variable (hquiet : ∀ tick op, world.fault tick op = none)
  (h : TakeTurns saves world rows trace flight stage)

include hquiet h

theorem TakeTurns.connects (hstage : stage i = .connecting)
    {next : Except PyError Unit → App Unit} (hprog : flight.progs i = .call .connect next) :
    TakeTurns saves world rows (trace ++ [(flight, .call i .connect)])
      ⟨(flight.site.exec world i .connect).2,
        Function.update flight.progs i (next (flight.site.exec world i .connect).1)⟩
      (Function.update stage i .reading) := by
  have hout : (stage i).outside = true := by rw [hstage]; rfl
  obtain ⟨hanswer, hlocks, hrds⟩ := exec_connect hquiet (h.key.record_ne hout)
  cases h.prog_eq hstage hprog
  rw [hanswer]
  refine h.advance rfl ?_ (h.last_snoc rfl (congrArg Rds.committed hrds)) (by simp)
  rw [hlocks, hrds, inserts_snoc rfl]
  exact h.key.outside_step hout rfl

theorem TakeTurns.closes (hstage : stage i = .closing)
    {next : Except PyError Unit → App Unit} (hprog : flight.progs i = .call .close next) :
    TakeTurns saves world rows (trace ++ [(flight, .call i .close)])
      ⟨(flight.site.exec world i .close).2,
        Function.update flight.progs i (next (flight.site.exec world i .close).1)⟩
      (Function.update stage i .saved) := by
  have hout : (stage i).outside = true := by rw [hstage]; rfl
  obtain ⟨hanswer, hlocks, hrds⟩ := exec_close hquiet (h.key.record_ne hout)
  cases h.prog_eq hstage hprog
  rw [hanswer]
  refine h.advance rfl ?_ (h.last_snoc rfl (congrArg Rds.committed hrds)) fun _ => ?_
  · rw [hlocks, hrds, inserts_snoc rfl, h.key.release_outside hout]
    exact h.key.outside_step hout rfl
  · obtain ⟨x, hx, hcommit⟩ := h.committed i (.inl hstage)
    exact ⟨x, List.mem_append_left _ hx, hcommit⟩

theorem TakeTurns.commits (hstage : stage i = .committing)
    {next : Except PyError Unit → App Unit} (hprog : flight.progs i = .call .commit next) :
    TakeTurns saves world rows (trace ++ [(flight, .call i .commit)])
      ⟨(flight.site.exec world i .commit).2,
        Function.update flight.progs i (next (flight.site.exec world i .commit).1)⟩
      (Function.update stage i .closing) := by
  obtain ⟨hanswer, hlocks, hcommitted⟩ := @exec_commit ι _ world flight.site i hquiet
  cases h.prog_eq hstage hprog
  rw [hanswer]
  obtain ⟨outside, hheld⟩ := h.key.inside (i := i) (by rw [hstage]; rfl)
  rw [hstage] at hheld
  obtain ⟨⟨⟩, -⟩ | ⟨hsite, hn, row, working, belongs, ⟨⟨⟩⟩ | ⟨-, carries⟩⟩ := hheld
  have htables := tables_of_record hsite
  have hnow : (flight.site.exec world i .commit).2.shared.rds.committed saves.table =
      rows ++ [row] := by
    rw [hcommitted, htables, working]
  refine h.advance rfl ?_ ?_ fun _ => ⟨_, List.mem_append_right _ List.mem_cons_self, rfl⟩
  · rw [hlocks, hsite, KeyLocks.takeRecord_release, inserts_snoc rfl, hn]
    refine .present _ row (fun j => ?_) hnow belongs
    by_cases hj : j = i
    · rw [hj, Function.update_self]
      rfl
    · exact outside_update outside _ j hj
  · rw [lastCommitter, Steps.last_snoc (f := Label.commits) rfl, hnow]
    exact ⟨row, rfl, belongs.userId, carries⟩

/-- The row is inserted by the only save at the key. -/
theorem TakeTurns.insertsRow (hrows : NoRow world.mysql rows saves.userId)
    (hfirst : Belongs world.mysql rows saves.userId (saves.row i)) (hstage : stage i = .inserting)
    {next : Except PyError Nat → App Unit}
    (hprog : flight.progs i = .call (.write saves.table (.insert (saves.row i))) next) :
    TakeTurns saves world rows
      (trace ++ [(flight, .call i (.write saves.table (.insert (saves.row i))))])
      ⟨(flight.site.exec world i (.write saves.table (.insert (saves.row i)))).2,
        Function.update flight.progs i
          (next (flight.site.exec world i (.write saves.table (.insert (saves.row i)))).1)⟩
      (Function.update stage i .committing) := by
  obtain ⟨outside, hheld⟩ := h.key.inside (i := i) (by rw [hstage]; rfl)
  rw [hstage] at hheld
  obtain ⟨-, hsite, hcommitted, hn⟩ | ⟨-, -, row, -, -, ⟨⟨⟩⟩ | ⟨⟨⟩, -⟩⟩ := hheld
  have htables : flight.site.tables i = flight.site.shared.rds.committed :=
    tables_of_free (by rw [hsite]; exact nofun)
  have happly : world.mysql.apply (flight.site.tables i saves.table) (.insert (saves.row i)) =
      .ok (1, rows ++ [saves.row i]) := by
    rw [htables, hcommitted]
    exact apply_insert_first hrows hfirst
  obtain ⟨hanswer, hlocks, hrds⟩ := exec_write hquiet happly
  cases h.prog_eq hstage hprog
  rw [hanswer]
  refine h.advance rfl ?_ (h.last_snoc rfl (by rw [hrds])) (by simp)
  rw [hlocks, hsite, KeyLocks.takeGap_takeRecord, hrds, inserts_snoc_insert rfl, hn]
  exact .committing i _ (saves.row i) (Function.update_self ..) (outside_update outside _)
    (Rds.setTable_self ..) hfirst (UserRow.setAll_setAll _ _)

/-- The row is changed by the only save at the key. -/
theorem TakeTurns.updatesRow (hrows : NoRow world.mysql rows saves.userId)
    (hfirst : Belongs world.mysql rows saves.userId (saves.row i)) (hstage : stage i = .updating)
    {statement : RowWrite}
    (hstatement : statement = .updateProfile saves.userId (editable (saves.fields i)))
    (calm : Calm world flight (.call i (.write saves.table statement)))
    {next : Except PyError Nat → App Unit}
    (hprog : flight.progs i = .call (.write saves.table statement) next) :
    TakeTurns saves world rows (trace ++ [(flight, .call i (.write saves.table statement))])
      ⟨(flight.site.exec world i (.write saves.table statement)).2,
        Function.update flight.progs i
          (next (flight.site.exec world i (.write saves.table statement)).1)⟩
      (Function.update stage i .committing) := by
  subst hstatement
  obtain ⟨outside, hheld⟩ := h.key.inside (i := i) (by rw [hstage]; rfl)
  rw [hstage] at hheld
  obtain ⟨⟨⟩, -⟩ | ⟨hsite, hn, row, working, belongs, -⟩ := hheld
  have htables := tables_of_record hsite
  have hchanges : row.setAll (editable (saves.fields i)) ≠ row := by
    obtain ⟨r, hr, hown, hdiffers⟩ := calm
    rw [htables, working] at hr
    rcases List.mem_append.mp hr with hr | hr
    · rw [hrows.absent r hr] at hown
      cases hown
    · rwa [List.mem_singleton.mp hr] at hdiffers
  have happly := apply_update_first hrows belongs (belongs.setAll hfirst)
  rw [if_pos hchanges, ← working, ← htables] at happly
  obtain ⟨hanswer, hlocks, hrds⟩ := exec_write hquiet happly
  cases h.prog_eq hstage hprog
  rw [hanswer]
  refine h.advance rfl ?_ (h.last_snoc rfl (by rw [hrds])) (by simp)
  rw [hlocks, hsite, KeyLocks.takeRecord_takeRecord, hrds, inserts_snoc rfl, hn]
  exact .committing i _ (row.setAll (editable (saves.fields i))) (Function.update_self ..)
    (outside_update outside _) (Rds.setTable_self ..) (belongs.setAll hfirst)
    (UserRow.setAll_setAll _ _)

/-- A save that finds no row takes the gap. -/
theorem TakeTurns.reads_absent (hrows : NoRow world.mysql rows saves.userId)
    (hstage : stage i = .reading) (hsite : flight.site.locks = .free)
    (outside : ∀ j, (stage j).outside = true)
    (committed : flight.site.shared.rds.committed saves.table = rows) (hn : inserts trace = 0)
    {next : Except PyError (Option String) → App Unit}
    (hprog : flight.progs i = .call (.selectForUpdate saves.table saves.userId) next) :
    TakeTurns saves world rows
      (trace ++ [(flight, .call i (.selectForUpdate saves.table saves.userId))])
      ⟨(flight.site.exec world i (.selectForUpdate saves.table saves.userId)).2,
        Function.update flight.progs i
          (next (flight.site.exec world i (.selectForUpdate saves.table saves.userId)).1)⟩
      (Function.update stage i .inserting) := by
  have hrecord : flight.site.locks.record ≠ some i := by
    rw [hsite]
    exact nofun
  have hfind := find?_absent hrows
  rw [← committed] at hfind
  obtain ⟨hanswer, hlocks, hafter⟩ := exec_read_none hquiet hrecord hfind
  cases h.prog_eq hstage hprog
  rw [hanswer]
  refine h.advance rfl ?_ (h.last_snoc rfl (by rw [hafter])) (by simp)
  rw [hlocks, hsite, hafter, inserts_snoc rfl, hn]
  exact .inserting i _ (Function.update_self ..)
    (outside_update (fun j _ => outside j) _) committed

/-- One that finds the row takes the row, and changes it where it has fields to change. -/
theorem TakeTurns.reads_present (hrows : NoRow world.mysql rows saves.userId)
    (hstage : stage i = .reading) (hsite : flight.site.locks = .free)
    (outside : ∀ j, (stage j).outside = true) {row : UserRow}
    (committed : flight.site.shared.rds.committed saves.table = rows ++ [row])
    (belongs : Belongs world.mysql rows saves.userId row) (hn : inserts trace = 1)
    {next : Except PyError (Option String) → App Unit}
    (hprog : flight.progs i = .call (.selectForUpdate saves.table saves.userId) next) :
    TakeTurns saves world rows
      (trace ++ [(flight, .call i (.selectForUpdate saves.table saves.userId))])
      ⟨(flight.site.exec world i (.selectForUpdate saves.table saves.userId)).2,
        Function.update flight.progs i
          (next (flight.site.exec world i (.selectForUpdate saves.table saves.userId)).1)⟩
      (Function.update stage i
        (if editable (saves.fields i) = [] then .committing else .updating)) := by
  have hrecord : flight.site.locks.record ≠ some i := by
    rw [hsite]
    exact nofun
  have hfind := find?_present hrows belongs
  rw [← committed] at hfind
  obtain ⟨hanswer, hlocks, hafter⟩ := exec_read_some hquiet hrecord hfind
  have hothers := fun next => outside_update (i := i) (fun j _ => outside j) next
  cases h.prog_eq hstage hprog
  rw [hanswer]
  by_cases hfields : editable (saves.fields i) = []
  · simp only [hfields, if_true]
    refine h.advance rfl ?_ (h.last_snoc rfl (by rw [hafter])) (by simp)
    rw [hlocks, hsite, hafter, inserts_snoc rfl, hn]
    refine .committing i _ row (Function.update_self ..) (hothers _) committed belongs ?_
    rw [Carries, hfields]
    rfl
  · simp only [hfields, if_false]
    refine h.advance rfl ?_ (h.last_snoc rfl (by rw [hafter])) (by simp)
    rw [hlocks, hsite, hafter, inserts_snoc rfl, hn]
    exact .updating i _ row (Function.update_self ..) (hothers _) committed belongs

/-- A save that is let in to read finds the row, or takes the gap. -/
theorem TakeTurns.reads (hrows : NoRow world.mysql rows saves.userId) (hstage : stage i = .reading)
    (admitted : flight.site.Admits i (.selectForUpdate saves.table saves.userId))
    (calm : Calm world flight (.call i (.selectForUpdate saves.table saves.userId)))
    {next : Except PyError (Option String) → App Unit}
    (hprog : flight.progs i = .call (.selectForUpdate saves.table saves.userId) next) :
    ∃ after, TakeTurns saves world rows
      (trace ++ [(flight, .call i (.selectForUpdate saves.table saves.userId))])
      ⟨(flight.site.exec world i (.selectForUpdate saves.table saves.userId)).2,
        Function.update flight.progs i
          (next (flight.site.exec world i (.selectForUpdate saves.table saves.userId)).1)⟩
      (Function.update stage i after) := by
  have hout : (stage i).outside = true := by rw [hstage]; rfl
  obtain ⟨hsite, outside, ⟨committed, hn⟩ | ⟨row, committed, belongs, hn⟩⟩ :=
    h.key.of_read hout (admitted .read rfl) calm
  · exact ⟨_, h.reads_absent hquiet hrows hstage hsite outside committed hn hprog⟩
  · exact ⟨_, h.reads_present hquiet hrows hstage hsite outside committed belongs hn hprog⟩

omit hquiet in
/-- Nobody waits for each other. -/
theorem TakeTurns.no_deadlock {j : ι} {op op' : AppOp} (waits : flight.site.WaitsFor i op j)
    (waits' : flight.site.WaitsFor j op' i) : False := by
  obtain ⟨request, -, hij⟩ := waits
  obtain ⟨request', -, hji⟩ := waits'
  exact KeyLocks.no_cycle h.key.locks_eq hij hji

theorem TakeTurns.step (hrows : NoRow world.mysql rows saves.userId)
    (hfirst : ∀ i, Belongs world.mysql rows saves.userId (saves.row i)) {label : Label ι}
    {flight' : KeyFlight ι Unit} (calm : Calm world flight label)
    (move : KeyFlight.Move world flight label flight') :
    ∃ stage', TakeTurns saves world rows (trace ++ [(flight, label)]) flight' stage' := by
  cases move with
  | deadlock i j op op' next next' prog prog' waits waits' =>
    exact (h.no_deadlock waits waits').elim
  | call i op next prog admitted =>
    have hprog := h.progs i
    rw [prog] at hprog
    cases hstage : stage i with
    | connecting =>
      rw [hstage] at hprog
      cases hprog
      exact ⟨_, h.connects hquiet hstage prog⟩
    | reading =>
      rw [hstage] at hprog
      cases hprog
      obtain ⟨after, hafter⟩ := h.reads hquiet hrows hstage admitted calm prog
      exact ⟨_, hafter⟩
    | inserting =>
      rw [hstage] at hprog
      cases hprog
      exact ⟨_, h.insertsRow hquiet hrows (hfirst i) hstage prog⟩
    | updating =>
      rw [hstage] at hprog
      cases hprog
      exact ⟨_, h.updatesRow hquiet hrows (hfirst i) hstage rfl calm prog⟩
    | committing =>
      rw [hstage] at hprog
      cases hprog
      exact ⟨_, h.commits hquiet hstage prog⟩
    | closing =>
      rw [hstage] at hprog
      cases hprog
      exact ⟨_, h.closes hquiet hstage prog⟩
    | saved =>
      rw [hstage] at hprog
      cases hprog

end Steps

/-! ## Nobody gets stuck -/

/-- A save that has not returned has a call to make. -/
theorem TakeTurns.saved (h : TakeTurns saves world rows trace flight stage)
    (hended : ∀ op next, flight.progs i ≠ .call op next) : stage i = .saved := by
  rw [h.progs i] at hended
  cases hstage : stage i with
  | saved => rfl
  | connecting | reading | inserting | updating | committing | closing =>
    rw [hstage] at hended
    exact absurd rfl (hended _ _)

/-- A save that can make its next call. -/
theorem move_of_granted {op : AppOp} {next : Except PyError op.Res → App Unit}
    (hprog : flight.progs i = .call op next)
    (hgrants : ∀ request, flight.site.locks.Grants request i) :
    ∃ label flight', KeyFlight.Move world flight label flight' :=
  ⟨_, _, .call i op next hprog fun request _ => hgrants request⟩

/-- Saves that take turns do not get stuck. -/
theorem TakeTurns.progress (h : TakeTurns saves world rows trace flight stage) :
    flight.Finished ∨ ∃ label flight', KeyFlight.Move world flight label flight' := by
  have hprogs := h.progs
  have hfree : flight.site.locks = .free →
      flight.Finished ∨ ∃ label flight', KeyFlight.Move world flight label flight' := by
    intro hlocks
    by_cases hfinished : flight.Finished
    · exact .inl hfinished
    · simp only [KeyFlight.Finished, ne_eq, not_forall, not_not] at hfinished
      obtain ⟨i, op, next, hprog⟩ := hfinished
      refine .inr (move_of_granted hprog fun request => ?_)
      rw [hlocks]
      exact KeyLocks.free_grants request i
  have hkey := h.key
  generalize hlocks : flight.site.locks = locks at hkey
  generalize flight.site.shared.rds = rds at hkey
  generalize inserts trace = n at hkey
  cases hkey with
  | absent _ outside committed => exact hfree hlocks
  | present _ row outside committed belongs => exact hfree hlocks
  | inserting k _ inside outside committed =>
    have hprog := hprogs k
    rw [inside] at hprog
    refine .inr (move_of_granted hprog fun request => ?_)
    rw [hlocks]
    exact KeyLocks.takeGap_grants request k
  | updating k _ row inside outside working belongs =>
    have hprog := hprogs k
    rw [inside] at hprog
    refine .inr (move_of_granted hprog fun request => ?_)
    rw [hlocks]
    exact KeyLocks.takeRecord_grants request k
  | committing k _ row inside outside working belongs carries =>
    have hprog := hprogs k
    rw [inside] at hprog
    refine .inr (move_of_granted hprog fun request => ?_)
    rw [hlocks]
    exact KeyLocks.takeRecord_grants request k

end TakeTurns

end TenantSaas
