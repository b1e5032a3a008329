import TenantSaas.App.World
import TenantSaas.Misc.KeyLocks
import TenantSaas.Misc.Steps

/-!
# Transactions on one key

Requests in flight whose statements are all about one key of one tenant table, under the row
and gap locks of that key.  A statement is made when its locks are granted; of two requests that
wait for each other the database rolls one back.
-/

namespace TenantSaas

/-- What a statement asks of the locks on the key. -/
def AppOp.lockRequest : AppOp → Option KeyLocks.Request
  | .selectForUpdate _ _ => some .read
  | .write _ (.insert _) => some .insert
  | .write _ _ => some .change
  | _ => none

/-- What the requests of `ι` work on.  The open transaction of `shared` is that of the request
that holds the row. -/
structure KeySite (ι : Type) where
  shared : AppState
  session : ι → Session
  locks : KeyLocks ι

namespace KeySite

variable {ι : Type}

/-- The next statement of `i` waits for `j`. -/
def WaitsFor (site : KeySite ι) (i : ι) (op : AppOp) (j : ι) : Prop :=
  ∃ request ∈ op.lockRequest, site.locks.WaitsFor request i j

def Admits (site : KeySite ι) (i : ι) (op : AppOp) : Prop :=
  ∀ request ∈ op.lockRequest, site.locks.Grants request i

variable [DecidableEq ι]

instance (site : KeySite ι) (i : ι) (op : AppOp) (j : ι) : Decidable (site.WaitsFor i op j) :=
  inferInstanceAs (Decidable (∃ _ ∈ _, _))

instance [Fintype ι] (site : KeySite ι) (i : ι) (op : AppOp) : Decidable (site.Admits i op) :=
  inferInstanceAs (Decidable (∀ _ ∈ _, _))

/-- The tables as the connection of a request sees them. -/
def tables (site : KeySite ι) (i : ι) : TenantTable → Table :=
  if site.locks.record = some i then site.shared.rds.working else site.shared.rds.committed

/-- The state as a request sees it. -/
def view (site : KeySite ι) (i : ι) : AppState :=
  { site.shared with
    rds := ⟨site.shared.rds.committed, site.tables i⟩
    session := site.session i }

/-- The locks after an answered call.  A locking read that finds no row leaves the gap locked. -/
def locksAfter (locks : KeyLocks ι) (i : ι) : (op : AppOp) → Except PyError op.Res → KeyLocks ι
  | .selectForUpdate _ _, .ok (some _) => locks.takeRecord i
  | .selectForUpdate _ _, .ok none => locks.takeGap i
  | .write _ _, .ok _ => locks.takeRecord i
  | .commit, .ok _ | .rollback, .ok _ | .close, .ok _ => locks.release i
  | _, _ => locks

def exec (world : World) (site : KeySite ι) (i : ι) (op : AppOp) :
    Except PyError op.Res × KeySite ι :=
  let result := world.exec (site.view i) op
  let locks := locksAfter site.locks i op result.1
  (result.1,
    { shared :=
        { result.2 with
          rds := ⟨result.2.rds.committed,
            if locks.record = some i then result.2.rds.working else site.shared.rds.working⟩ }
      session := Function.update site.session i result.2.session
      locks := locks })

/-- The transaction of a request is rolled back. -/
def abort (site : KeySite ι) (i : ι) : KeySite ι := { site with locks := site.locks.release i }

end KeySite

/-- The requests and what each has still to do. -/
structure KeyFlight (ι α : Type) where
  site : KeySite ι
  progs : ι → App α

namespace KeyFlight

variable {ι α : Type}

/-- A call that was answered, or one that a deadlock ended. -/
inductive Label (ι : Type) where
  | call (caller : ι) (op : AppOp)
  | deadlock (victim : ι) (op : AppOp)

variable [DecidableEq ι]

/-- `pymysql` raises this for error 1213. -/
def deadlockFound : PyError := .mysqlError "OperationalError"

inductive Move (world : World) (flight : KeyFlight ι α) : Label ι → KeyFlight ι α → Prop where
  | call (i : ι) (op : AppOp) (next : Except PyError op.Res → App α)
      (prog : flight.progs i = .call op next) (admitted : flight.site.Admits i op) :
      Move world flight (.call i op)
        ⟨(flight.site.exec world i op).2,
          Function.update flight.progs i (next (flight.site.exec world i op).1)⟩
  | deadlock (i j : ι) (op op' : AppOp) (next : Except PyError op.Res → App α)
      (next' : Except PyError op'.Res → App α) (prog : flight.progs i = .call op next)
      (prog' : flight.progs j = .call op' next') (waits : flight.site.WaitsFor i op j)
      (waits' : flight.site.WaitsFor j op' i) :
      Move world flight (.deadlock i op)
        ⟨flight.site.abort i, Function.update flight.progs i (next (.error deadlockFound))⟩

/-- The requests take turns, call by call, in any order. -/
abbrev Run (world : World) : KeyFlight ι α → Steps.Trace (KeyFlight ι α) (Label ι) →
    KeyFlight ι α → Prop :=
  Steps.Run fun flight label flight' => Move world flight label flight'

/-- Every request has ended. -/
def Finished (flight : KeyFlight ι α) : Prop :=
  ∀ i op next, flight.progs i ≠ .call op next

/-! ## Schedules -/

inductive Turn (ι : Type) where
  | call (i : ι)
  | deadlock (i j : ι)

variable [Fintype ι]

def turn (world : World) (flight : KeyFlight ι α) :
    Turn ι → Option (Label ι × KeyFlight ι α)
  | .call i =>
    match flight.progs i with
    | .call op next =>
      if flight.site.Admits i op then
        some (.call i op, ⟨(flight.site.exec world i op).2,
          Function.update flight.progs i (next (flight.site.exec world i op).1)⟩)
      else none
    | _ => none
  | .deadlock i j =>
    match flight.progs i, flight.progs j with
    | .call op next, .call op' _ =>
      if flight.site.WaitsFor i op j ∧ flight.site.WaitsFor j op' i then
        some (.deadlock i op,
          ⟨flight.site.abort i, Function.update flight.progs i (next (.error deadlockFound))⟩)
      else none
    | _, _ => none

/-- Let the requests take the turns of a schedule. -/
def play (world : World) : List (Turn ι) → KeyFlight ι α →
    Option (Steps.Trace (KeyFlight ι α) (Label ι) × KeyFlight ι α)
  | [], flight => some ([], flight)
  | t :: schedule, flight =>
    match turn world flight t with
    | none => none
    | some (label, flight') =>
      (play world schedule flight').map fun rest => ((flight, label) :: rest.1, rest.2)

theorem move_of_turn {world : World} {flight flight' : KeyFlight ι α} {label : Label ι}
    {t : Turn ι} (h : turn world flight t = some (label, flight')) :
    Move world flight label flight' := by
  cases t with
  | call i =>
    cases hprog : flight.progs i with
    | ret a => simp [turn, hprog] at h
    | raise e => simp [turn, hprog] at h
    | call op next =>
      simp only [turn, hprog] at h
      split at h
      · rename_i hadmits
        cases h
        exact .call i op next hprog hadmits
      · cases h
  | deadlock i j =>
    cases hprog : flight.progs i with
    | ret a => simp [turn, hprog] at h
    | raise e => simp [turn, hprog] at h
    | call op next =>
      cases hprog' : flight.progs j with
      | ret a => simp [turn, hprog, hprog'] at h
      | raise e => simp [turn, hprog, hprog'] at h
      | call op' next' =>
        simp only [turn, hprog, hprog'] at h
        split at h
        · rename_i hwaits
          cases h
          exact .deadlock i j op op' next next' hprog hprog' hwaits.1 hwaits.2
        · cases h

theorem run_of_play {world : World} {schedule : List (Turn ι)} {flight final : KeyFlight ι α}
    {trace : Steps.Trace (KeyFlight ι α) (Label ι)}
    (h : play world schedule flight = some (trace, final)) : Run world flight trace final := by
  induction schedule generalizing flight trace with
  | nil =>
    cases h
    exact .nil
  | cons t schedule ih =>
    rw [play] at h
    cases hturn : turn world flight t with
    | none => simp [hturn] at h
    | some result =>
      obtain ⟨label, flight'⟩ := result
      simp only [hturn, Option.map_eq_some_iff] at h
      obtain ⟨⟨rest, last⟩, hrest, hpair⟩ := h
      cases hpair
      exact (Steps.Run.nil.snoc (move_of_turn hturn)).append (ih hrest)

end KeyFlight

/-! ## What a call does to the site -/

section Calls

variable {ι : Type} [DecidableEq ι] {world : World} {site : KeySite ι} {i : ι}
  {table : TenantTable} {userId : String}

theorem exec_quiet (hquiet : ∀ tick op, world.fault tick op = none) (s : AppState) (op : AppOp) :
    world.exec s op =
      ((world.answer s op).1, { (world.answer s op).2 with tick := s.tick + 1 }) :=
  World.exec_of_answer (by simp [World.failure, hquiet])

theorem exec_connect (hquiet : ∀ tick op, world.fault tick op = none)
    (hrecord : site.locks.record ≠ some i) :
    (site.exec world i .connect).1 = .ok () ∧
      (site.exec world i .connect).2.locks = site.locks ∧
      (site.exec world i .connect).2.shared.rds = site.shared.rds := by
  unfold KeySite.exec
  rw [exec_quiet hquiet]
  exact ⟨rfl, rfl, congrArg (Rds.mk _) (if_neg hrecord)⟩

theorem exec_close (hquiet : ∀ tick op, world.fault tick op = none)
    (hrecord : site.locks.record ≠ some i) :
    (site.exec world i .close).1 = .ok () ∧
      (site.exec world i .close).2.locks = site.locks.release i ∧
      (site.exec world i .close).2.shared.rds = site.shared.rds := by
  have hnone : (site.locks.release i).record ≠ some i := by
    unfold KeyLocks.release
    rw [if_neg hrecord]
    exact hrecord
  unfold KeySite.exec
  rw [exec_quiet hquiet]
  exact ⟨rfl, rfl, congrArg (Rds.mk _) (if_neg hnone)⟩

theorem tables_of_free (h : site.locks.record ≠ some i) :
    site.tables i = site.shared.rds.committed := if_neg h

theorem tables_of_record (h : site.locks = KeyLocks.free.takeRecord i) :
    site.tables i = site.shared.rds.working := if_pos (by rw [h]; rfl)

/-- A locking read that finds no row takes the gap. -/
theorem exec_read_none (hquiet : ∀ tick op, world.fault tick op = none)
    (hrecord : site.locks.record ≠ some i)
    (hnone : ((site.shared.rds.committed table).find? fun row =>
      world.mysql.eq row.userId userId) = none) :
    (site.exec world i (.selectForUpdate table userId)).1 = .ok none ∧
      (site.exec world i (.selectForUpdate table userId)).2.locks = site.locks.takeGap i ∧
      (site.exec world i (.selectForUpdate table userId)).2.shared.rds = site.shared.rds := by
  have hanswer : world.answer (site.view i) (.selectForUpdate table userId) =
      (.ok none, site.view i) := by
    simp only [World.answer, KeySite.view, tables_of_free hrecord, hnone, Option.map_none]
  unfold KeySite.exec
  rw [exec_quiet hquiet, hanswer]
  exact ⟨rfl, rfl, congrArg (Rds.mk _) (if_neg hrecord)⟩

/-- One that finds the row takes the row, as it is committed. -/
theorem exec_read_some (hquiet : ∀ tick op, world.fault tick op = none)
    (hrecord : site.locks.record ≠ some i) {row : UserRow}
    (hsome : ((site.shared.rds.committed table).find? fun row =>
      world.mysql.eq row.userId userId) = some row) :
    (site.exec world i (.selectForUpdate table userId)).1 = .ok (some row.userId) ∧
      (site.exec world i (.selectForUpdate table userId)).2.locks = site.locks.takeRecord i ∧
      (site.exec world i (.selectForUpdate table userId)).2.shared.rds =
        ⟨site.shared.rds.committed, site.shared.rds.committed⟩ := by
  have hanswer : world.answer (site.view i) (.selectForUpdate table userId) =
      (.ok (some row.userId), site.view i) := by
    simp only [World.answer, KeySite.view, tables_of_free hrecord, hsome, Option.map_some]
  unfold KeySite.exec
  rw [exec_quiet hquiet, hanswer]
  refine ⟨rfl, rfl, congrArg (Rds.mk _) ?_⟩
  rw [if_pos (by rfl)]
  exact tables_of_free hrecord

/-- A statement that succeeds takes the row, as its transaction has left it. -/
theorem exec_write (hquiet : ∀ tick op, world.fault tick op = none) {statement : RowWrite}
    {count : Nat} {rows : Table}
    (happly : world.mysql.apply (site.tables i table) statement = .ok (count, rows)) :
    (site.exec world i (.write table statement)).1 = .ok count ∧
      (site.exec world i (.write table statement)).2.locks = site.locks.takeRecord i ∧
      (site.exec world i (.write table statement)).2.shared.rds =
        ⟨site.shared.rds.committed, Rds.setTable (site.tables i) table rows⟩ := by
  have hanswer : world.answer (site.view i) (.write table statement) =
      (.ok count, { site.view i with rds := { (site.view i).rds with
        working := Rds.setTable (site.tables i) table rows } }) := by
    simp only [World.answer, KeySite.view, happly]
  unfold KeySite.exec
  rw [exec_quiet hquiet, hanswer]
  exact ⟨rfl, rfl, congrArg (Rds.mk _) (if_pos rfl)⟩

theorem exec_commit (hquiet : ∀ tick op, world.fault tick op = none) :
    (site.exec world i .commit).1 = .ok () ∧
      (site.exec world i .commit).2.locks = site.locks.release i ∧
      (site.exec world i .commit).2.shared.rds.committed = site.tables i := by
  unfold KeySite.exec
  rw [exec_quiet hquiet]
  exact ⟨rfl, rfl, rfl⟩

/-- A call of one request leaves the gap locks of the others. -/
theorem gap_exec_other {k : ι} (h : i ≠ k) (op : AppOp) :
    (site.exec world k op).2.locks.gap i = site.locks.gap i := by
  show (KeySite.locksAfter site.locks k op (site.exec world k op).1).gap i = _
  unfold KeySite.locksAfter
  split
  all_goals first | rfl | exact Function.update_of_ne h _ _

end Calls

end TenantSaas
