import TenantSaas.App.Frames
import TenantSaas.Services.RdsService

/-!
# Transactions on the tenant tables

When `transaction` commits, and what it leaves when it does not.
-/

namespace TenantSaas

theorem onTenant_keepsSession {α : Type} {tenant : String} {p : App α}
    (hp : p.Calls (AppOp.OnTenant tenant)) : p.Calls fun op => op.changesSession = false := by
  apply hp.mono
  intro op hop
  cases op <;> first | rfl | cases hop

/-- `get_connection()` succeeded. -/
def AppState.connected (s : AppState) : AppState :=
  { s with rds := s.rds.connect, tick := s.tick + 1 }

/-- `conn.close()` -/
def AppState.closed (s : AppState) : AppState :=
  { s with rds := s.rds.discard, tick := s.tick + 1 }

@[simp] theorem AppState.connected_working (s : AppState) :
    s.connected.rds.working = s.rds.committed := rfl
section Connection

variable {world : World} {α : Type} {body : App α} {s t : AppState}

theorem run_withConnection (h : world.failure s .connect = none) :
    world.run (withConnection body) s =
      ((world.run body s.connected).1, (world.run body s.connected).2.closed) := by
  have hconnect : world.run (perform .connect) s = (.ok (), s.connected) := by
    rw [World.run_perform, World.exec_of_answer h]
    rfl
  unfold withConnection
  rw [World.run_bind_ok hconnect, World.run, Prog.run_finally]
  rfl

theorem run_withConnection_of_failure {e : PyError} (h : world.failure s .connect = some e) :
    world.run (withConnection body) s = (.error e, { s with tick := s.tick + 1 }) := by
  unfold withConnection
  apply World.run_bind_error
  rw [World.run_perform, World.exec_of_failure h]

/-- A transaction returns when its three parts succeed, and then has committed. -/
theorem run_transaction_eq_ok {a : α} : world.run (transaction body) s = (.ok a, t) ↔
    world.failure s .connect = none ∧ ∃ u, world.run body s.connected = (.ok a, u) ∧
      world.failure u .commit = none ∧
      t = { u with rds := u.rds.commit, tick := u.tick + 2 } := by
  cases hconnect : world.failure s .connect with
  | some e =>
    unfold transaction
    rw [run_withConnection_of_failure hconnect]
    simp
  | none =>
    unfold transaction
    rw [run_withConnection hconnect]
    rcases hbody : world.run body s.connected with ⟨e | b, u⟩
    · rw [World.run_tryCatch_error (World.run_bind_error hbody)]
      rcases hrollback : world.run (perform .rollback) u with ⟨e' | _, v⟩
      · rw [World.run_bind_error hrollback]
        simp
      · rw [World.run_bind_ok hrollback]
        simp
    cases hcommit : world.failure u .commit with
    | some e =>
      have hraise : world.run (perform .commit) u = (.error e, { u with tick := u.tick + 1 }) := by
        rw [World.run_perform, World.exec_of_failure hcommit]
      rw [World.run_tryCatch_error ((World.run_bind_ok hbody).trans (World.run_bind_error hraise))]
      generalize ({ u with tick := u.tick + 1 } : AppState) = u'
      rcases hrollback : world.run (perform .rollback) u' with ⟨e' | _, v⟩
      · rw [World.run_bind_error hrollback]
        simp [hcommit]
      · rw [World.run_bind_ok hrollback]
        simp [hcommit]
    | none =>
      have hdone : world.run (perform .commit) u =
          (.ok (), { u with rds := u.rds.commit, tick := u.tick + 1 }) := by
        rw [World.run_perform, World.exec_of_answer hcommit]
        rfl
      rw [World.run_tryCatch_ok ((World.run_bind_ok hbody).trans (World.run_bind_ok hdone))]
      constructor
      · intro h
        obtain ⟨hvalue, hstate⟩ := Prod.mk.inj h
        cases hvalue
        exact ⟨rfl, u, rfl, hcommit, hstate.symm⟩
      · intro h'
        obtain ⟨-, u', ⟨⟩, -, rfl⟩ := h'
        rfl

/-- A transaction that raises leaves what was committed. -/
theorem committed_of_transaction_error (hbody : body.Calls (· ≠ .commit)) {e : PyError}
    (h : world.run (transaction body) s = (.error e, t)) :
    t.rds.committed = s.rds.committed := by
  unfold transaction at h
  cases hconnect : world.failure s .connect with
  | some e' =>
    rw [run_withConnection_of_failure hconnect] at h
    cases h
    rfl
  | none =>
    rw [run_withConnection hconnect] at h
    obtain ⟨hresult, rfl⟩ := Prod.mk.inj h
    show (world.run (tryCatch _ _ : App α) s.connected).2.rds.committed = s.rds.committed
    have hrollback (e : PyError) (u : AppState) :
        (world.run (do perform .rollback; throw e : App α) u).2.rds.committed = u.rds.committed :=
      run_committed (Prog.Calls.bind (perform_calls (by simp)) fun _ => by trivial) u
    have hkept : (world.run body s.connected).2.rds.committed = s.rds.committed :=
      run_committed hbody s.connected
    rcases hrun : world.run body s.connected with ⟨e' | a, u⟩
    · rw [World.run_tryCatch_error (World.run_bind_error hrun), hrollback]
      rw [hrun] at hkept
      exact hkept
    rw [hrun] at hkept
    cases hcommit : world.failure u .commit with
    | some e' =>
      have hraise : world.run (perform .commit) u = (.error e', { u with tick := u.tick + 1 }) := by
        rw [World.run_perform, World.exec_of_failure hcommit]
      rw [World.run_tryCatch_error ((World.run_bind_ok hrun).trans (World.run_bind_error hraise)),
        hrollback]
      exact hkept
    | none =>
      have hok := (@run_transaction_eq_ok world α body s _ a).mpr
        ⟨hconnect, u, hrun, hcommit, rfl⟩
      unfold transaction at hok
      rw [run_withConnection hconnect] at hok
      have hvalue := (Prod.mk.inj hok).1
      rw [hvalue] at hresult
      cases hresult

end Connection

/-! ## One statement -/

/-- When the transaction of one statement, begun at a tick, fails. -/
def WriteFails (world : World) (tables : TenantTable → Table) (table : TenantTable)
    (statement : RowWrite) (tick : Nat) : Prop :=
  world.fault tick .connect ≠ none ∨
    world.fault (tick + 1) (.write table statement) ≠ none ∨
    (∃ e, world.mysql.apply (tables table) statement = .error e) ∨
    world.fault (tick + 2) .commit ≠ none

/-- A tenant without a table fails always. -/
def RecordFails (world : World) (tenant : String) (tables : TenantTable → Table)
    (statement : RowWrite) (tick : Nat) : Prop :=
  ∀ table, tableForTenant tenant = .ok table → WriteFails world tables table statement tick

/-- The functions that write one statement. -/
def writeRecord (tenant : String) (statement : RowWrite) : App Unit := do
  let table ← Prog.ofExcept (tableForTenant tenant)
  transaction do
    let _ ← perform (.write table statement)
    pure ()

section Write

variable {world : World} {tenant : String} {table : TenantTable} {statement : RowWrite}
  {s t : AppState}

theorem write_calls_noCommit : (do
    let _ ← perform (.write table statement)
    pure () : App Unit).Calls (· ≠ .commit) :=
  Prog.Calls.bind (perform_calls (by simp)) fun _ => by trivial

theorem run_write_ok {count : Nat} {rows : Table}
    (hfailure : world.failure s (.write table statement) = none)
    (happly : world.mysql.apply (s.rds.working table) statement = .ok (count, rows)) :
    world.run (perform (.write table statement)) s =
      (.ok count, { s with
        rds := { s.rds with working := Rds.setTable s.rds.working table rows }
        tick := s.tick + 1 }) := by
  rw [World.run_perform, World.exec_of_answer hfailure]
  simp only [World.answer, happly]

theorem exists_run_write_iff : (∃ t, world.run (transaction do
      let _ ← perform (.write table statement)
      pure ()) s = (.ok (), t)) ↔ ¬ WriteFails world s.rds.committed table statement s.tick := by
  simp only [WriteFails, not_or, not_exists]
  constructor
  · intro h'
    obtain ⟨t, h⟩ := h'
    obtain ⟨hconnect, u, hbody, hcommit, -⟩ := run_transaction_eq_ok.mp h
    obtain ⟨count, v, hwrite, hret⟩ := World.run_bind_eq_ok.mp hbody
    cases hret
    rw [World.run_perform] at hwrite
    obtain ⟨hfault, hanswer, rfl⟩ := World.answer_of_exec hwrite
    refine ⟨not_not.mpr hconnect, not_not.mpr hfault, fun e herror => ?_, not_not.mpr ?_⟩
    · simp only [World.answer, AppState.connected_working, herror] at hanswer
      cases hanswer
    · exact hcommit
  · intro h'
    obtain ⟨hconnect, hwrite, happly, hcommit⟩ := h'
    rw [not_not] at hconnect hwrite hcommit
    cases hresult : world.mysql.apply (s.rds.committed table) statement with
    | error e => exact absurd hresult (happly e)
    | ok result =>
      have hbody : ∃ u, world.run (do
          let _ ← perform (.write table statement)
          pure ()) s.connected = (.ok (), u) ∧ u.tick = s.tick + 2 :=
        ⟨_, World.run_bind_ok (run_write_ok (s := s.connected) hwrite hresult), rfl⟩
      obtain ⟨u, hrun, htick⟩ := hbody
      rw [← htick] at hcommit
      exact ⟨_, run_transaction_eq_ok.mpr ⟨hconnect, u, hrun, hcommit, rfl⟩⟩

theorem run_writeRecord_of_fails (h : RecordFails world tenant s.rds.committed statement s.tick) :
    ∃ e u, world.run (writeRecord tenant statement) s = (.error e, u) ∧
      u.rds.committed = s.rds.committed := by
  unfold writeRecord
  cases htable : tableForTenant tenant with
  | error e => exact ⟨e, s, rfl, rfl⟩
  | ok table =>
    rcases hrun : world.run (transaction do
      let _ ← perform (.write table statement)
      pure ()) s with ⟨e | _, u⟩
    · exact ⟨e, u, hrun, committed_of_transaction_error write_calls_noCommit hrun⟩
    · exact absurd (h table htable) (exists_run_write_iff.mp ⟨u, hrun⟩)

theorem run_writeRecord_of_not_fails
    (h : ¬ RecordFails world tenant s.rds.committed statement s.tick) :
    ∃ u, world.run (writeRecord tenant statement) s = (.ok (), u) := by
  simp only [RecordFails, not_forall] at h
  obtain ⟨table, htable, hwrites⟩ := h
  unfold writeRecord
  rw [htable]
  exact exists_run_write_iff.mpr hwrites

end Write

end TenantSaas
