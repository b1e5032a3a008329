import TenantSaas.Web.Admission

/-!
# Connections to the tenant tables

A connection is opened for a few statements and nothing else: while it is open no other service
is asked, and it is not closed over locks or changes unless a rollback was tried.
-/

namespace TenantSaas

/-! ## The shape of a connection -/

section Shape

variable {σ α : Type} {env : Prog.Env AppOp.Res PyError σ} {E : σ → AppOp → Prop} {I O D : σ → Prop}
  {body : App α}

/-- `I` holds without a connection, `O` once it is open, and `D` after its statements. -/
theorem always_withConnection
    (connect : ∀ s, I s → E s .connect ∧ (∀ t, env s .connect (.ok ()) t → O t) ∧
      ∀ e t, env s .connect (.error e) t → I t)
    (statements : ∀ s, O s → body.Always env E (fun _ t => D t) s)
    (close : ∀ s, D s → E s .close ∧ ∀ r t, env s .close r t → I t) :
    Prog.Keeps env E I (withConnection body) := by
  intro s hs
  obtain ⟨hconnect, hopened, hfailed⟩ := connect s hs
  refine Prog.Always.bind (Prog.Always.perform hconnect fun r t hstep => ?_)
  cases r with
  | error e => exact hfailed e t hstep
  | ok _ =>
    refine Prog.Always.finally'
      ((statements t (hopened t hstep)).mono (fun _ _ h => h) fun r u hu => ?_)
    obtain ⟨hclose, hclosed⟩ := close u hu
    refine Prog.Always.perform hclose fun r' v hstep' => ?_
    cases r' <;> exact hclosed _ v hstep'

/-- The statements of a transaction keep `O`; a commit or a rollback ends it. -/
theorem always_transaction
    (connect : ∀ s, I s → E s .connect ∧ (∀ t, env s .connect (.ok ()) t → O t) ∧
      ∀ e t, env s .connect (.error e) t → I t)
    (statements : Prog.Keeps env E O body)
    (commit : ∀ s, O s → E s .commit ∧ (∀ t, env s .commit (.ok ()) t → D t) ∧
      ∀ e t, env s .commit (.error e) t → O t)
    (rollback : ∀ s, O s → E s .rollback ∧ ∀ r t, env s .rollback r t → D t)
    (close : ∀ s, D s → E s .close ∧ ∀ r t, env s .close r t → I t) :
    Prog.Keeps env E I (transaction body) := by
  refine always_withConnection connect (fun s hs => ?_) close
  have hundo : ∀ (e : PyError) (t : σ), O t →
      ((perform .rollback).bind fun _ => (.raise e : App α)).Always env E (fun _ u => D u) t := by
    intro e t ht
    obtain ⟨hrollback, hrolled⟩ := rollback t ht
    refine Prog.Always.bind (Prog.Always.perform hrollback fun r u hstep => ?_)
    cases r <;> exact hrolled _ u hstep
  refine Prog.Always.handle (Prog.Always.bind ((statements s hs).mono (fun _ _ h => h)
    fun r t ht => ?_))
  cases r with
  | error e => exact hundo e t ht
  | ok a =>
    obtain ⟨hcommit, hcommitted, hfailed⟩ := commit t ht
    refine Prog.Always.bind (Prog.Always.perform hcommit fun r u hstep => ?_)
    cases r with
    | ok _ => exact hcommitted u hstep
    | error e => exact hundo e u (hfailed e u hstep)

end Shape

/-! ## What is asked while a connection is open -/

/-- How far a request is with its connection. -/
inductive Phase where
  | closed
  /-- Open, with nothing to commit. -/
  | clean
  /-- Open, with rows that are locked or changed. -/
  | dirty
  /-- Open, after a commit or an attempt to roll back. -/
  | settled
  deriving DecidableEq

namespace Phase

/-- What may be asked in a phase. -/
def permits (phase : Phase) : AppOp → Bool
  | .connect => phase == closed
  | .commit | .rollback => phase == clean || phase == dirty
  | .close => phase == clean || phase == settled
  | op => if op.isSql then phase == clean || phase == dirty else phase == closed

/-- The phase after a call, which was answered or failed. -/
def after (phase : Phase) (op : AppOp) (answered : Bool) : Phase :=
  match op with
  | .connect => if answered then clean else closed
  | .commit => if answered then settled else phase
  | .rollback => settled
  | .close => closed
  | op => if op.locks then dirty else phase

end Phase

/-- The answers a request may get, with what becomes of its session and its connection. -/
def connectionEnv : Prog.Env AppOp.Res PyError (Session × Phase) := fun s op r t =>
  sessionEnv s.1 op r t.1 ∧ t.2 = s.2.after op r.isOk

/-- The calls outside connections. -/
theorem permits_closed {op : AppOp} (h : op.isSql = false) : Phase.closed.permits op = true := by
  cases op <;> first | rfl | cases h

theorem after_closed {op : AppOp} (h : op.isSql = false) (phase : Phase) (answered : Bool) :
    phase.after op answered = phase := by
  cases op <;> first | rfl | cases h

theorem permits_open {op : AppOp} (h : (op.reads || op.locks) = true) {phase : Phase}
    (hphase : phase = .clean ∨ phase = .dirty) : phase.permits op = true := by
  rcases hphase with rfl | rfl <;> (cases op <;> first | rfl | cases h)

theorem after_reads {op : AppOp} (h : op.reads = true) (phase : Phase) (answered : Bool) :
    phase.after op answered = phase := by
  cases op <;> first | rfl | cases h

theorem after_open {op : AppOp} (h : (op.reads || op.locks) = true) {phase : Phase}
    (hphase : phase = .clean ∨ phase = .dirty) (answered : Bool) :
    phase.after op answered = .clean ∨ phase.after op answered = .dirty := by
  cases op <;> first | exact hphase | exact .inr rfl | cases h

section Serving

variable {identity : Identity} {signedIn : Bool}

/-- The session speaks for the identity, and the connection is in one of some phases. -/
def Reached (identity : Identity) (signedIn : Bool) (phases : Phase → Prop)
    (s : Session × Phase) : Prop :=
  s.1.SpeaksFor identity signedIn ∧ phases s.2

/-- However its calls are answered, the program makes each in a phase that permits it, and ends
without a connection. -/
abbrev KeepsConnections (identity : Identity) (signedIn : Bool) {α : Type} (p : App α) : Prop :=
  Prog.Keeps connectionEnv (fun s op => s.2.permits op = true)
    (Reached identity signedIn (· = .closed)) p

theorem keepsConnections_of_calls {α : Type} {p : App α}
    (hp : p.Calls fun op => op.isSql = false ∧ op.changesSession = false) :
    KeepsConnections identity signedIn p := by
  refine Prog.Keeps.of_calls ?_ hp
  rintro op ⟨s, phase⟩ ⟨hsql, hkeeps⟩ ⟨hspeaks, rfl⟩
  refine ⟨permits_closed hsql, ?_⟩
  rintro r ⟨t, phase'⟩ ⟨hsession, hphase⟩
  refine ⟨?_, hphase.trans (after_closed hsql _ _)⟩
  rw [show t = s from sessionEnv_keeps hkeeps hsession]
  exact hspeaks

/-- One of the four calls of a connection. -/
theorem reached_after {op : AppOp} (hkeeps : op.changesSession = false)
    {phases phases' : Phase → Prop} {s : Session × Phase}
    (hs : Reached identity signedIn phases s) {r : Except PyError op.Res} {t : Session × Phase}
    (hstep : connectionEnv s op r t)
    (h : ∀ phase, phases phase → phases' (phase.after op r.isOk)) :
    Reached identity signedIn phases' t := by
  obtain ⟨hsession, hphase⟩ := hstep
  have hsame : t.1 = s.1 := sessionEnv_keeps hkeeps hsession
  refine ⟨hs.1.congr (by rw [hsame]), ?_⟩
  rw [hphase]
  exact h s.2 hs.2

theorem serves_connections (config : Config) (identity : Identity) (signedIn : Bool) :
    Serves config identity signedIn (KeepsConnections identity signedIn) where
  ret := Prog.Keeps.ret
  raise := Prog.Keeps.raise
  bind := Prog.Keeps.bind
  handle := Prog.Keeps.handle
  perform hop := keepsConnections_of_calls (perform_calls ⟨hop.outside, hop.keepsSession⟩)
  account admin {role} hrole username email :=
    keepsConnections_of_calls ((createCognitoUser_calls admin hrole username email).mono
      fun _ hop => hop.2)
  reading {α body} hbody := by
    refine always_withConnection (O := Reached identity signedIn (· = .clean))
      (D := Reached identity signedIn (· = .clean)) ?_ ?_ ?_
    · rintro ⟨s, phase⟩ hs
      obtain rfl : phase = .closed := hs.2
      refine ⟨rfl, fun t hstep => ?_, fun e t hstep => ?_⟩ <;>
        exact reached_after rfl hs hstep (by rintro _ rfl; rfl)
    · refine Prog.Keeps.of_calls ?_ hbody
      rintro op ⟨s, phase⟩ ⟨hreads, _⟩ hs
      obtain rfl : phase = .clean := hs.2
      refine ⟨permits_open (by rw [hreads]; rfl) (.inl rfl), fun r t hstep => ?_⟩
      refine reached_after (reads_keepsSession (by rw [hreads]; rfl)) hs hstep ?_
      rintro _ rfl
      exact after_reads hreads _ _
    · rintro ⟨s, phase⟩ hs
      obtain rfl : phase = .clean := hs.2
      exact ⟨rfl, fun r t hstep => reached_after rfl hs hstep (by rintro _ rfl; rfl)⟩
  transaction {α body} hbody := by
    refine always_transaction (O := Reached identity signedIn fun p => p = .clean ∨ p = .dirty)
      (D := Reached identity signedIn (· = .settled)) ?_ ?_ ?_ ?_ ?_
    · rintro ⟨s, phase⟩ hs
      obtain rfl : phase = .closed := hs.2
      refine ⟨rfl, fun t hstep => ?_, fun e t hstep => ?_⟩
      · exact reached_after rfl hs hstep fun _ _ => .inl rfl
      · exact reached_after rfl hs hstep fun _ _ => rfl
    · refine Prog.Keeps.of_calls ?_ hbody
      rintro op s ⟨hsql, _⟩ hs
      refine ⟨permits_open hsql hs.2, fun r t hstep => ?_⟩
      exact reached_after (reads_keepsSession hsql) hs hstep fun phase h => after_open hsql h _
    · intro s hs
      refine ⟨?_, fun t hstep => ?_, fun e t hstep => ?_⟩
      · rcases hs.2 with h | h <;> (rw [h]; rfl)
      · exact reached_after rfl hs hstep fun _ _ => rfl
      · exact reached_after rfl hs hstep fun _ h => h
    · intro s hs
      refine ⟨?_, fun r t hstep => reached_after rfl hs hstep fun _ _ => rfl⟩
      rcases hs.2 with h | h <;> (rw [h]; rfl)
    · rintro ⟨s, phase⟩ hs
      obtain rfl : phase = .settled := hs.2
      exact ⟨rfl, fun r t hstep => reached_after rfl hs hstep fun _ _ => rfl⟩
  session h := by
    refine AfterReading.keeps ?_ ?_ h
    · rintro ⟨s, phase⟩ hs
      obtain rfl : phase = .closed := hs.2
      refine ⟨rfl, fun r t hstep => ?_⟩
      obtain ⟨⟨rfl, hsame⟩, hphase⟩ := hstep
      exact ⟨s, rfl, hs.1, hs.1.congr (by rw [hsame]), hphase⟩
    · rintro ⟨s, phase⟩ new hs hnew
      obtain rfl : phase = .closed := hs.2
      refine ⟨rfl, fun r t hstep => ?_⟩
      obtain ⟨⟨rfl, hsame⟩, hphase⟩ := hstep
      exact ⟨rfl, hnew.congr (by rw [hsame]), hphase⟩

end Serving

theorem asksWho_outside {op : AppOp} (h : op.asksWho = true) : op.isSql = false := by
  cases op <;> first | rfl | cases h

/-- A guard needs no connection. -/
theorem asks_connections {α : Type} {Q : Except PyError α → Session → Prop} {p : App α}
    {s : Session} (h : Asks Q p s) :
    p.Always connectionEnv (fun t op => t.2.permits op = true)
      (fun r t => t.2 = .closed ∧ Q r t.1) (s, .closed) := by
  have hstep : ∀ (t : Session × Phase) (op : AppOp) (r : Except PyError op.Res)
      (u : Session × Phase), connectionEnv t op r u → sessionEnv t.1 op r u.1 :=
    fun _ _ _ _ hstep => hstep.1
  have hsession := h.simulate (t := (s, Phase.closed)) Prod.fst hstep
  have hstays : ∀ (t : Session × Phase) (op : AppOp) (r : Except PyError op.Res)
      (u : Session × Phase), t.2 = .closed → op.asksWho = true → connectionEnv t op r u →
      u.2 = .closed := by
    rintro t op r u ht hop ⟨-, hphase⟩
    rw [hphase, after_closed (asksWho_outside hop), ht]
  refine (hsession.invariant (J := fun t => t.2 = .closed) hstays rfl).mono ?_ fun _ _ hQ => hQ
  rintro ⟨t, phase⟩ op ⟨rfl, hop⟩
  exact permits_closed (asksWho_outside hop)

/-- Whatever is answered, a guarded request opens its connections one after the other, makes
statements on an open one only, asks nothing else while one is open, tries to commit or roll back
what it has locked or changed before it closes it, and has closed it in the end. -/
theorem serve_connections (config : Config) (lower : String → String) (request : Request)
    (route : Route) (s : Session) :
    (serve config lower request route).Always connectionEnv (fun t op => t.2.permits op = true)
      (fun _ t => t.2 = .closed) (s, .closed) := by
  have hguard := asks_connections (guard_asks config request route (s := s))
  refine Prog.Always.bind (Prog.Always.handle (hguard.mono (fun _ _ h => h) fun r t ht => ?_))
  obtain ⟨hclosed, hentered⟩ := ht
  have hdenied : ∀ response, (do
      meterUsage config request none response
      pure response : App Response).Always connectionEnv
      (fun t op => t.2.permits op = true) (fun _ t => t.2 = .closed) t := by
    intro response
    unfold meterUsage recordApiUsage
    split <;> exact hclosed
  cases r with
  | error e => exact hdenied _
  | ok gate =>
    cases gate with
    | deny response => exact hdenied response
    | enter identity =>
      obtain ⟨hsession, hadmin⟩ := hentered identity rfl
      exact (serveAs_serves (serves_connections config identity _) lower request route hadmin t
        ⟨hsession.speaksFor, hclosed⟩).mono (fun _ _ h => h) fun _ _ h => h.2

end TenantSaas
