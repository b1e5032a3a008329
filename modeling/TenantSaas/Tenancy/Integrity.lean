import TenantSaas.Web.Connections
import TenantSaas.Misc.Steps

/-!
# Who can change what

Requests of any browsers to the guarded routes, one after the other, each in a world of its own
choosing.  What becomes of the tenant tables follows from who was let in.
-/

namespace TenantSaas

/-- A request to a guarded route: the world it is served in, and the cookie it carries. -/
structure Served where
  world : World
  lower : String → String
  session : Session
  request : Request
  route : Route

namespace Served

/-- The state in which a request is served. -/
def start (served : Served) (s : AppState) : AppState := { s with session := served.session }

/-- The state it leaves. -/
def finish (config : Config) (served : Served) (s : AppState) : AppState :=
  (served.world.run (serve config served.lower served.request served.route) (served.start s)).2

/-- Who is let in with it, if anyone. -/
def admitted (config : Config) (served : Served) (s : AppState) : Option Identity :=
  match (served.world.run (served.route.guard config served.request) (served.start s)).1 with
  | .ok (.enter identity) => some identity
  | _ => none

end Served

/-- The requests are served by one database. -/
def ServedBy (config : Config) (mysql : MySql) (s : AppState) (served : Served) (t : AppState) :
    Prop :=
  served.world.mysql = mysql ∧ t = served.finish config s

/-! ## What is committed for an identity -/

/-- The answers of a world. -/
def execEnv (world : World) : Prog.Env AppOp.Res PyError AppState := fun s op r t =>
  world.exec s op = (r, t)

theorem exec_session {world : World} {s t : AppState} {op : AppOp} {r : Except PyError op.Res}
    (h : execEnv world s op r t) : sessionEnv s.session op r t.session := by
  have henv := exec_sessionEnv world s op
  rwa [h] at henv

section Part

variable {world : World} {s t : AppState} {op : AppOp} {r : Except PyError op.Res}

theorem execEnv_part {part : Part} (hop : op.changes part = false) (h : execEnv world s op r t) :
    part.Same s t := by
  have hpart := @exec_part world op part hop s
  rwa [h] at hpart

theorem execEnv_session (hop : op.changesSession = false) (h : execEnv world s op r t) :
    t.session = s.session := @execEnv_part world s t op r .session hop h

theorem execEnv_working (hop : op.changes .working = false) (h : execEnv world s op r t) :
    t.rds.working = s.rds.working := @execEnv_part world s t op r .working hop h

theorem execEnv_committed (hop : op ≠ .commit) (h : execEnv world s op r t) :
    t.rds.committed = s.rds.committed := by
  refine @execEnv_part world s t op r .committed ?_ h
  cases op <;> first | rfl | exact absurd rfl hop

/-- A statement fails, or changes the table as the database says. -/
theorem execEnv_write {table : TenantTable} {statement : RowWrite} {r : Except PyError Nat}
    (h : execEnv world s (.write table statement) r t) :
    t.rds.working = s.rds.working ∨ ∃ count rows,
      world.mysql.apply (s.rds.working table) statement = .ok (count, rows) ∧
        t.rds.working = Rds.setTable s.rds.working table rows := by
  cases hfailure : world.failure s (.write table statement) with
  | some e =>
    rw [execEnv, World.exec_of_failure hfailure] at h
    cases h
    exact .inl rfl
  | none =>
    rw [execEnv, World.exec_of_answer hfailure] at h
    cases h
    simp only [World.answer]
    rcases world.mysql.apply (s.rds.working table) statement with e | ⟨count, rows⟩
    · exact .inl rfl
    · exact .inr ⟨count, rows, rfl, rfl⟩

/-- What is committed is what was, or what the transaction saw. -/
theorem execEnv_commit {r : Except PyError Unit} (h : execEnv world s .commit r t) :
    t.rds.working = s.rds.working ∧
      (t.rds.committed = s.rds.committed ∨ t.rds.committed = s.rds.working) := by
  refine ⟨execEnv_working rfl h, ?_⟩
  cases hfailure : world.failure s .commit with
  | some e =>
    rw [execEnv, World.exec_of_failure hfailure] at h
    cases h
    exact .inl rfl
  | none =>
    rw [execEnv, World.exec_of_answer hfailure] at h
    cases h
    exact .inr rfl

end Part

abbrev TenantTables := TenantTable → Table

/-- A relation between tables before and after that the statements of an identity have. -/
structure Evolves (mysql : MySql) (identity : Identity) (R : TenantTables → TenantTables → Prop) :
    Prop where
  refl : ∀ tables, R tables tables
  trans : ∀ before between after, R before between → R between after → R before after
  write : ∀ (tables : TenantTables) {table : TenantTable} {statement : RowWrite} {count : Nat}
    {rows : Table}, tableForTenant identity.tenant = .ok table →
      statement.AllowedFor identity →
      mysql.apply (tables table) statement = .ok (count, rows) →
      R tables (Rds.setTable tables table rows)

section Evolves

variable {world : World} {identity : Identity} {signedIn : Bool}
  {R : TenantTables → TenantTables → Prop} {before : TenantTables}

/-- What is committed has come from `before`, and the session speaks for the identity. -/
structure Come (R : TenantTables → TenantTables → Prop) (before : TenantTables)
    (identity : Identity) (signedIn : Bool) (s : AppState) : Prop where
  committed : R before s.rds.committed
  speaks : s.session.SpeaksFor identity signedIn

/-- So has what the open transaction sees. -/
structure ComeOpen (R : TenantTables → TenantTables → Prop) (before : TenantTables)
    (identity : Identity) (signedIn : Bool) (s : AppState) : Prop extends
    Come R before identity signedIn s where
  working : R s.rds.committed s.rds.working

theorem Come.congr {s t : AppState} (h : Come R before identity signedIn s)
    (hcommitted : t.rds.committed = s.rds.committed) (hsession : t.session = s.session) :
    Come R before identity signedIn t :=
  ⟨hcommitted ▸ h.committed, hsession ▸ h.speaks⟩

/-- The program commits by `R`, and its session keeps speaking for the identity. -/
abbrev KeepsCome (world : World) (R : TenantTables → TenantTables → Prop) (before : TenantTables)
    (identity : Identity) (signedIn : Bool) {α : Type} (p : App α) : Prop :=
  Prog.Keeps (execEnv world) (fun _ _ => True) (Come R before identity signedIn) p

theorem come_of_calls {α : Type} {p : App α}
    (hp : p.Calls fun op => op.isSql = false ∧ op.changesSession = false) :
    KeepsCome world R before identity signedIn p := by
  refine Prog.Keeps.of_calls (fun op s hop hs => ⟨trivial, fun r t hstep => ?_⟩) hp
  refine hs.congr (execEnv_committed ?_ hstep) (execEnv_session hop.2 hstep)
  rintro rfl
  cases hop.1

variable (evolves : Evolves world.mysql identity R)

include evolves

/-- Opening a connection, and closing it. -/
theorem come_connect {s : AppState} (hs : Come R before identity signedIn s) :
    True ∧ (∀ t, execEnv world s .connect (.ok ()) t → ComeOpen R before identity signedIn t) ∧
      ∀ e t, execEnv world s .connect (.error e) t → Come R before identity signedIn t := by
  refine ⟨trivial, fun t hstep => ?_, fun e t hstep => ?_⟩
  · have hcome := hs.congr (execEnv_committed (by rintro ⟨⟩) hstep) (execEnv_session rfl hstep)
    obtain ⟨-, -, rfl⟩ := World.answer_of_exec hstep
    exact ⟨hcome, evolves.refl _⟩
  · exact hs.congr (execEnv_committed (by rintro ⟨⟩) hstep) (execEnv_session rfl hstep)

theorem comeOpen_write {s t : AppState} {table : TenantTable} {statement : RowWrite}
    {r : Except PyError Nat} (htable : tableForTenant identity.tenant = .ok table)
    (hallowed : statement.AllowedFor identity) (hs : ComeOpen R before identity signedIn s)
    (hstep : execEnv world s (.write table statement) r t) :
    ComeOpen R before identity signedIn t := by
  have hcommitted := execEnv_committed (by rintro ⟨⟩) hstep
  refine ⟨hs.toCome.congr hcommitted (execEnv_session rfl hstep), ?_⟩
  rw [hcommitted]
  rcases execEnv_write hstep with hsame | ⟨count, rows, happly, hrows⟩
  · rw [hsame]
    exact hs.working
  · rw [hrows]
    exact evolves.trans _ _ _ hs.working (evolves.write _ htable hallowed happly)

theorem comeOpen_commit {s t : AppState} {r : Except PyError Unit}
    (hs : ComeOpen R before identity signedIn s) (hstep : execEnv world s .commit r t) :
    ComeOpen R before identity signedIn t := by
  obtain ⟨hworking, hcommitted | hcommitted⟩ := execEnv_commit hstep
  · refine ⟨hs.toCome.congr hcommitted (execEnv_session rfl hstep), ?_⟩
    rw [hcommitted, hworking]
    exact hs.working
  · refine ⟨⟨?_, execEnv_session rfl hstep ▸ hs.speaks⟩, ?_⟩
    · rw [hcommitted]
      exact evolves.trans _ _ _ hs.committed hs.working
    · rw [hcommitted, hworking]
      exact evolves.refl _

/-- The statements of an open connection. -/
theorem comeOpen_of_calls {α : Type} {body : App α}
    (hbody : body.Calls fun op => (op.reads || op.locks) = true ∧ op.AllowedFor identity) :
    Prog.Keeps (execEnv world) (fun _ _ => True) (ComeOpen R before identity signedIn) body := by
  refine Prog.Keeps.of_calls (fun op s hop hs => ⟨trivial, fun r t hstep => ?_⟩) hbody
  cases op with
  | write table statement => exact comeOpen_write evolves hop.2.1 hop.2.2 hs hstep
  | select | selectForUpdate | countLike | countRoles =>
    have hcommitted := execEnv_committed (by rintro ⟨⟩) hstep
    refine ⟨hs.toCome.congr hcommitted (execEnv_session rfl hstep), ?_⟩
    rw [hcommitted, execEnv_working rfl hstep]
    exact hs.working
  | _ => cases hop.1

theorem serves_evolves (config : Config) :
    Serves config identity signedIn (KeepsCome world R before identity signedIn) where
  ret := Prog.Keeps.ret
  raise := Prog.Keeps.raise
  bind := Prog.Keeps.bind
  handle := Prog.Keeps.handle
  perform hop := come_of_calls (perform_calls ⟨hop.outside, hop.keepsSession⟩)
  account admin {role} hrole username email :=
    come_of_calls ((createCognitoUser_calls admin hrole username email).mono fun _ hop => hop.2)
  reading {α body} hbody := by
    have hstatements := hbody.mono fun op hop =>
      (⟨by rw [hop.1]; rfl, hop.2⟩ : (op.reads || op.locks) = true ∧ op.AllowedFor identity)
    refine always_withConnection (fun s hs => come_connect evolves hs)
      (comeOpen_of_calls evolves hstatements) fun s hs => ⟨trivial, fun r t hstep => ?_⟩
    exact hs.toCome.congr (execEnv_committed (by rintro ⟨⟩) hstep) (execEnv_session rfl hstep)
  transaction {α body} hbody := by
    refine always_transaction (D := Come R before identity signedIn)
      (fun s hs => come_connect evolves hs) (comeOpen_of_calls evolves hbody)
      (fun s hs => ⟨trivial, fun t hstep => ?_, fun e t hstep => ?_⟩)
      (fun s hs => ⟨trivial, fun r t hstep => ?_⟩) fun s hs => ⟨trivial, fun r t hstep => ?_⟩
    · exact (comeOpen_commit evolves hs hstep).toCome
    · exact comeOpen_commit evolves hs hstep
    · exact hs.toCome.congr (execEnv_committed (by rintro ⟨⟩) hstep) (execEnv_session rfl hstep)
    · exact hs.congr (execEnv_committed (by rintro ⟨⟩) hstep) (execEnv_session rfl hstep)
  session h := by
    refine AfterReading.keeps ?_ ?_ h
    · intro s hs
      refine ⟨trivial, fun r t hstep => ?_⟩
      obtain ⟨rfl, hsame⟩ := exec_session hstep
      refine ⟨s.session, rfl, hs.speaks, hs.congr ?_ hsame⟩
      exact execEnv_committed (by rintro ⟨⟩) hstep
    · intro s new hs hnew
      refine ⟨trivial, fun r t hstep => ?_⟩
      obtain ⟨rfl, hsame⟩ := exec_session hstep
      refine ⟨rfl, ?_, hsame ▸ hnew⟩
      rw [execEnv_committed (by rintro ⟨⟩) hstep]
      exact hs.committed

end Evolves

/-! ## One request -/

theorem asksWho_part {op : AppOp} (h : op.asksWho = true) {part : Part} (hpart : part ≠ .session) :
    op.changes part = false := by
  cases part <;> first | exact absurd rfl hpart | (cases op <;> first | rfl | cases h)

/-- Only the session differs. -/
def Untouched (s t : AppState) : Prop := ∀ part, part ≠ Part.session → part.Same s t

theorem Untouched.exec {world : World} {s t u : AppState} {op : AppOp} {r : Except PyError op.Res}
    (h : Untouched s t) (hop : op.asksWho = true) (hstep : execEnv world t op r u) :
    Untouched s u := by
  intro part hpart
  have hsame := execEnv_part (asksWho_part hop hpart) hstep
  have ht := h part hpart
  cases part <;> exact Eq.trans hsame ht

/-- What a guard leaves of the state. -/
theorem asks_exec {α : Type} {Q : Except PyError α → Session → Prop} {p : App α} (world : World)
    {s : AppState} (h : Asks Q p s.session) :
    Untouched s (world.run p s).2 ∧ Q (world.run p s).1 (world.run p s).2.session := by
  have hstep : ∀ (t : AppState) (op : AppOp) (r : Except PyError op.Res) (u : AppState),
      execEnv world t op r u → sessionEnv t.session op r u.session :=
    fun _ _ _ _ => exec_session
  have hrefl : Untouched s s := fun part _ => by cases part <;> rfl
  have halways := (h.simulate AppState.session hstep).invariant (J := Untouched s)
    (fun t op r u ht hop hstep => ht.exec hop hstep) hrefl
  exact Prog.Always.run (fun _ _ => rfl) halways

theorem Untouched.of_start {served : Served} {s t : AppState} (h : Untouched (served.start s) t) :
    Untouched s t := by
  intro part hpart
  have ht := h part hpart
  cases part <;> first | exact ht | exact absurd rfl hpart

theorem Served.admitted_of_guard {config : Config} (served : Served) {s t : AppState}
    {identity : Identity}
    (hguard : served.world.run (served.route.guard config served.request) (served.start s) =
      (.ok (.enter identity), t)) : served.admitted config s = some identity := by
  rw [admitted, hguard]

/-- A request is turned away, and leaves nothing but its session; or it is served as that of the
identity which was let in. -/
theorem Served.finish_cases (config : Config) (served : Served) (s : AppState) :
    served.admitted config s = none ∧ Untouched s (served.finish config s) ∨
      ∃ identity t, served.world.run (served.route.guard config served.request)
          (served.start s) = (.ok (.enter identity), t) ∧ Untouched s t ∧
        t.session.SpeaksFor identity served.session.identity.isSome ∧
        (served.route.isAdmin = true → identity.role = "admin") ∧
        served.finish config s =
          (served.world.run (serveAs config served.lower served.request served.route identity)
            t).2 := by
  obtain ⟨huntouched, hentered⟩ := asks_exec served.world (s := served.start s)
    (guard_asks config served.request served.route)
  have huntouched := huntouched.of_start
  unfold Served.admitted Served.finish
  rcases hguard : served.world.run (served.route.guard config served.request) (served.start s) with
    ⟨e | gate, t⟩ <;> rw [hguard] at huntouched hentered
  · refine .inl ⟨rfl, ?_⟩
    unfold serve
    rw [World.run_bind_ok (World.run_tryCatch_error hguard)]
    simp only [meterUsage, recordApiUsage]
    split <;> exact huntouched
  cases gate with
  | deny response =>
    refine .inl ⟨rfl, ?_⟩
    rw [run_serve_deny hguard]
    exact huntouched
  | enter identity =>
    obtain ⟨hsession, hadmin⟩ := hentered identity rfl
    refine .inr ⟨identity, t, rfl, huntouched, hsession.speaksFor, hadmin, ?_⟩
    unfold serve
    rw [World.run_bind_ok (World.run_tryCatch_ok hguard)]

/-- What a request commits, it commits for the identity that was let in. -/
theorem Served.finish_evolves {config : Config} {served : Served} {s : AppState}
    {R : TenantTables → TenantTables → Prop} (refl : ∀ tables, R tables tables)
    (evolves : ∀ identity, served.admitted config s = some identity →
      Evolves served.world.mysql identity R) :
    R s.rds.committed (served.finish config s).rds.committed := by
  rcases served.finish_cases config s with
    ⟨-, huntouched⟩ | ⟨identity, t, hguard, huntouched, hspeaks, hadmin, hfinish⟩
  · rw [show (served.finish config s).rds.committed = s.rds.committed from
      huntouched .committed (by rintro ⟨⟩)]
    exact refl _
  · have hcommitted : t.rds.committed = s.rds.committed := huntouched .committed (by rintro ⟨⟩)
    have hserves : Serves config identity served.session.identity.isSome
        (KeepsCome served.world R s.rds.committed identity served.session.identity.isSome) :=
      serves_evolves (evolves identity (served.admitted_of_guard hguard)) config
    have halways := serveAs_serves hserves served.lower served.request served.route hadmin t
      ⟨hcommitted ▸ refl _, hspeaks⟩
    rw [hfinish]
    exact (Prog.Always.run (fun _ _ => rfl) halways : Come R _ identity _ _).committed

/-! ## The rows of a user -/

/-- The row a statement is about. -/
def RowWrite.userId : RowWrite → String
  | .insert row => row.userId
  | .updateProfile userId _ => userId
  | .updateEnabled userId _ => userId
  | .updatePasswordChanged userId _ => userId
  | .delete userId => userId

/-- The rows of a user, whose id the database compares by its collation. -/
def rowsOf (mysql : MySql) (userId : String) (rows : Table) : Table :=
  rows.filter fun row => mysql.eq row.userId userId

/-- Who may change the rows of a user: the administrators of the tenant, and that user. -/
def Identity.MayChange (mysql : MySql) (table : TenantTable) (userId : String)
    (identity : Identity) : Prop :=
  tableForTenant identity.tenant = .ok table ∧ (identity.role = "admin" ∨
    ∃ own, Users.resolveUserId identity = .ok own ∧ mysql.eq own userId = true)

section Rows

variable {mysql : MySql} {table : TenantTable} {userId : String} {rows rows' : Table}

theorem eq_of_eq {a b c : String} (h : mysql.eq a b = true) : mysql.eq a c = mysql.eq b c := by
  rw [MySql.eq, beq_iff_eq] at h
  rw [MySql.eq, MySql.eq, h]

theorem rowsOf_updateWhere {key : String} {f : UserRow → UserRow}
    (hf : ∀ row, (f row).userId = row.userId) (hkey : mysql.eq key userId = false) :
    rowsOf mysql userId (mysql.updateWhere rows key f).2 = rowsOf mysql userId rows := by
  unfold rowsOf MySql.updateWhere
  induction rows with
  | nil => rfl
  | cons row rows ih =>
    rw [List.map_cons, List.filter_cons, List.filter_cons, ih]
    by_cases hrow : mysql.eq row.userId key = true
    · rw [if_pos hrow, hf, eq_of_eq hrow, hkey]
      rfl
    · rw [if_neg hrow]

/-- A statement about another user. -/
theorem rowsOf_apply {statement : RowWrite} {count : Nat}
    (hother : mysql.eq statement.userId userId = false)
    (happly : mysql.apply rows statement = .ok (count, rows')) :
    rowsOf mysql userId rows' = rowsOf mysql userId rows := by
  cases statement with
  | insert row =>
    obtain ⟨-, rfl⟩ := apply_insert happly
    unfold rowsOf
    rw [List.filter_append, List.filter_singleton,
      show mysql.eq row.userId userId = false from hother]
    exact List.append_nil _
  | updateProfile key fields =>
    rw [apply_updateProfile happly]
    exact rowsOf_updateWhere (fun row => setAll_userId row fields) hother
  | updateEnabled key enabled =>
    cases happly
    exact rowsOf_updateWhere (fun _ => rfl) hother
  | updatePasswordChanged key today =>
    cases happly
    exact rowsOf_updateWhere (fun _ => rfl) hother
  | delete key =>
    cases happly
    unfold rowsOf
    rw [List.filter_filter]
    refine List.filter_congr fun row _ => ?_
    cases hrow : mysql.eq row.userId userId with
    | false => rfl
    | true =>
      cases hkey : mysql.eq row.userId key with
      | false => rfl
      | true =>
        rw [eq_of_eq hkey, show mysql.eq key userId = false from hother] at hrow
        cases hrow

/-- What a user who is no administrator writes is about that user. -/
theorem own_of_allowed {identity : Identity} {statement : RowWrite}
    (hallowed : statement.AllowedFor identity) (hadmin : identity.role ≠ "admin") :
    Users.resolveUserId identity = .ok statement.userId := by
  cases statement with
  | insert row =>
    rcases hallowed with ⟨hrole, -⟩ | ⟨hown, -⟩
    · exact absurd hrole hadmin
    · exact hown
  | updateProfile key fields => exact hallowed.1
  | updatePasswordChanged key today => exact hallowed
  | updateEnabled key enabled => exact absurd hallowed hadmin
  | delete key => exact absurd hallowed hadmin

theorem evolves_rowsOf {identity : Identity} (h : ¬ identity.MayChange mysql table userId) :
    Evolves mysql identity fun before after =>
      rowsOf mysql userId (after table) = rowsOf mysql userId (before table) where
  refl _ := rfl
  trans _ _ _ h h' := h'.trans h
  write tables {table' statement count rows} htable hallowed happly := by
    by_cases htables : table = table'
    · subst htables
      rw [Rds.setTable_self]
      refine rowsOf_apply ?_ happly
      by_contra heq
      rw [Bool.not_eq_false] at heq
      refine h ⟨htable, or_iff_not_imp_left.mpr fun hadmin => ?_⟩
      exact ⟨statement.userId, own_of_allowed hallowed hadmin, heq⟩
    · rw [Rds.setTable_other _ htables]

/-- In every run of requests the rows of a user stay what they are, unless someone was let in who
may change them: an administrator of the tenant, or a user whose own id is that id to the
database. -/
theorem rows_changed_by_authority {config : Config} {mysql : MySql} {s t : AppState}
    {trace : Steps.Trace AppState Served} {table : TenantTable} {userId : String}
    (run : Steps.Run (ServedBy config mysql) s trace t)
    (changed : rowsOf mysql userId (t.rds.committed table) ≠
      rowsOf mysql userId (s.rds.committed table)) :
    ∃ x ∈ trace, ∃ identity, x.2.admitted config x.1 = some identity ∧
      identity.MayChange mysql table userId := by
  by_contra hnone
  let R (s t : AppState) : Prop := rowsOf mysql userId (t.rds.committed table) =
    rowsOf mysql userId (s.rds.committed table)
  let P (s : AppState) (served : Served) : Prop := ∀ identity,
    served.admitted config s = some identity → ¬ identity.MayChange mysql table userId
  have hnobody : ∀ x ∈ trace, P x.1 x.2 :=
    fun x hx identity hadmitted hmay => hnone ⟨x, hx, identity, hadmitted, hmay⟩
  refine changed (run.relates (R := R) (P := P) (fun _ => rfl)
    (fun s t u hst htu => Eq.trans htu hst) (fun s served t hmay hserved => ?_) hnobody)
  obtain ⟨rfl, rfl⟩ := hserved
  exact Served.finish_evolves (R := fun before after =>
    rowsOf _ userId (after table) = rowsOf _ userId (before table)) (fun _ => rfl)
    fun identity hadmitted => evolves_rowsOf (hmay identity hadmitted)

end Rows

/-! ## An example -/

/-- A user of TenantA, with an account of that name. -/
def carl : UserRow := UserRow.withDefaults "carl" "carl" "carl@a.example" "user"

def withCarl : AppState :=
  { emptyState with
    rds :=
      { committed := Rds.setTable (fun _ => []) .tenantA [carl]
        working := fun _ => [] }
    pool := [("carl", ⟨[], ["TenantA_user"], true⟩)] }

/-- The administrator of TenantA disables the user. -/
def disablesCarl : Served where
  world := quietWorld
  lower := id
  session := { Session.cleared with identity := some sampleAdmin }
  request :=
    { method := "POST"
      path := "/api/v1/admin/users/carl/toggle"
      headers := fun _ => none
      cookies := fun _ => none
      args := fun _ => none
      form := fun _ => none }
  route := .toggleUser "carl"

theorem carl_changed_by_authority : ∃ x ∈ [(withCarl, disablesCarl)], ∃ identity,
    x.2.admitted sampleConfig x.1 = some identity ∧
      identity.MayChange quietWorld.mysql .tenantA "carl" :=
  rows_changed_by_authority (Steps.Run.nil.snoc ⟨rfl, rfl⟩) (by decide)

end TenantSaas
