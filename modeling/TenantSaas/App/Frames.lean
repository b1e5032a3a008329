import TenantSaas.App.World

/-!
# What a call leaves alone

The parts of the state, which of them a call may change, and what follows for programs.
-/

namespace TenantSaas

inductive Part where
  | working
  | committed
  | demoDb
  | pool
  | demoPool
  | session
  | queue
  | demoEvents

/-- The part of `t` is that of `s`. -/
def Part.Same (s t : AppState) : Part → Prop
  | working => t.rds.working = s.rds.working
  | committed => t.rds.committed = s.rds.committed
  | demoDb => t.demoDb = s.demoDb
  | pool => t.pool = s.pool
  | demoPool => t.demoPool = s.demoPool
  | session => t.session = s.session
  | queue => t.queue = s.queue
  | demoEvents => t.demoEvents = s.demoEvents

/-- The parts a call may change. -/
def AppOp.changes : AppOp → Part → Bool
  | connect, .working | write _ _, .working | rollback, .working | close, .working => true
  | commit, .committed => true
  | setDemoTable _ _, .demoDb => true
  | cognito _, .pool => true
  | setDemoCognitoUser _ _, .demoPool => true
  | setSession _, .session => true
  | sendMessage _ _, .queue => true
  | recordDemoEvent _, .demoEvents => true
  | _, _ => false

section Frame

variable {world : World} {op : AppOp}

theorem answer_part {part : Part} (h : op.changes part = false) (s : AppState) :
    part.Same s (world.answer s op).2 := by
  cases op with
  | write table statement =>
    simp only [World.answer]
    cases part <;> first | (split <;> rfl) | cases h
  | cognito op =>
    simp only [World.answer]
    cases part <;> first | (split <;> rfl) | cases h
  | kmsDecrypt blob =>
    simp only [World.answer]
    cases part <;> (split <;> rfl)
  | setDemoCognitoUser username user =>
    cases user <;> cases part <;> first | rfl | cases h
  | _ => cases part <;> first | rfl | cases h

theorem exec_part {part : Part} (h : op.changes part = false) (s : AppState) :
    part.Same s (world.exec s op).2 := by
  cases hfailure : world.failure s op with
  | some e =>
    rw [World.exec_of_failure hfailure]
    cases part <;> rfl
  | none =>
    rw [World.exec_of_answer hfailure]
    have hanswer := @answer_part world op part h s
    cases part <;> exact hanswer

/-- A part that no call of the program changes. -/
theorem run_part {α : Type} {p : App α} {part : Part}
    (hp : p.Calls fun op => op.changes part = false) (s : AppState) :
    part.Same s (world.run p s).2 := by
  refine Prog.run_invariant world.exec (I := fun t => part.Same s t) ?_ hp (by cases part <;> rfl)
  intro op t hop ht
  have hexec := @exec_part world op part hop t
  cases part <;> exact hexec.trans ht

/-! ## The user pools -/

def AppOp.changesAccounts (op : AppOp) : Bool := op.changes .pool || op.changes .demoPool

/-- The two pools. -/
def accounts (s : AppState) : UserPool × List (String × DemoCognitoUser) := (s.pool, s.demoPool)

theorem exec_accounts (h : op.changesAccounts = false) (s : AppState) :
    accounts (world.exec s op).2 = accounts s := by
  obtain ⟨hpool, hdemoPool⟩ := Bool.or_eq_false_iff.mp h
  exact Prod.ext (@exec_part world op .pool hpool s) (@exec_part world op .demoPool hdemoPool s)

/-! ## The tables, the session -/

/-- Only a commit changes what is committed. -/
theorem run_committed {α : Type} {p : App α} (hp : p.Calls (· ≠ .commit)) (s : AppState) :
    (world.run p s).2.rds.committed = s.rds.committed := by
  refine @run_part world α p .committed (hp.mono ?_) s
  intro op hop
  cases op <;> first | rfl | exact absurd rfl hop

def AppOp.changesSession (op : AppOp) : Bool := op.changes .session

theorem run_keepsSession {α : Type} {p : App α}
    (hp : p.Calls fun op => op.changesSession = false) (s : AppState) :
    (world.run p s).2.session = s.session :=
  @run_part world α p .session hp s

end Frame

end TenantSaas
