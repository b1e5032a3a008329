import TenantSaas.Accounts.Roster

/-!
# The account a row stands for

Admins create users, users save their profiles, and an admin's page lists the rows with a form
to toggle and a form to delete each.  The forms name the account by the row's username.
-/

namespace TenantSaas

open Directory

/-- The two ways to put a row. -/
inductive Edit where
  | create
  | save
  deriving DecidableEq

def Edit.route : Edit → Route
  | create => .createUser
  | save => .userDetailsUpdate

def Edit.done : Edit → Response → Bool
  | create => Response.created
  | save => Response.saved

/-- An edit that was made, and the state it was made in. -/
structure RosterStep where
  edit : Edit
  sent : Submission
  before : AppState

/-- The submitted toggle form of a row (`manage_users.html:44-51`). -/
structure ToggleForm (row : UserRow) (request : Request) : Prop where
  username : request.form "username" = some row.username
  enable : request.form "enable" = some (if row.enabled then "false" else "true")

/-- The submitted delete form of a row (`manage_users.html:127-131`). -/
structure DeleteForm (row : UserRow) (request : Request) : Prop where
  username : request.form "username" = some row.username
  hardDelete : request.form "hard_delete" = some "true"

section Definitions

variable (config : Config) (world : World) (lower : String → String)

/-- No row has an account to its username yet. -/
structure Unclaimed (s : AppState) : Prop where
  keyed : ∀ tenant, RowsKeyed config world tenant s
  enabled : ∀ tenant, ∀ entry ∈ keyedRows config tenant s, entry.2.enabled = true
  free : ∀ tenant, ∀ entry ∈ keyedRows config tenant s,
    enabledFlag config entry.2.username s = none

/-- The edits made, the last one first, and the state after them. -/
inductive RosterRun : List RosterStep → AppState → Prop
  | start {s : AppState} (unclaimed : Unclaimed config world s) : RosterRun [] s
  | next {trace : List RosterStep} {s t : AppState} {response : Response}
      (run : RosterRun trace s) (step : RosterStep) (before : step.before = s.receiving step.sent)
      (served : world.run (serveAs config lower step.sent.request step.edit.route
        step.sent.identity) step.before = (.ok response, t))
      (done : step.edit.done response = true) : RosterRun (step :: trace) t
  | unsaved {trace : List RosterStep} {s t : AppState} {response : Response}
      (run : RosterRun trace s) (sent : Submission)
      (served : world.run (serveAs config lower sent.request .userDetailsUpdate sent.identity)
        (s.receiving sent) = (.ok response, t))
      (undone : response.saved = false) : RosterRun trace t

/-- The username an edit makes an account and a row for. -/
def RosterStep.username (step : RosterStep) : String :=
  (Admin.NewUser.read step.sent.request).username

def RosterStep.userId (step : RosterStep) : String :=
  (newUserDraw world step.sent.request step.before.tick).1

/-- The username of the account that was created together with the row of a user id. -/
def origin : List RosterStep → String → String → Option String
  | [], _, _ => none
  | step :: trace, tenant, userId =>
    if step.edit = .create ∧ step.sent.identity.tenant = tenant ∧ step.userId world = userId then
      some step.username
    else origin trace tenant userId

/-- A name for a row: the one it has, or one that like its own is no account's. -/
def Renames (row : UserRow) (name : String) (s : AppState) : Prop :=
  row.username = name ∨
    enabledFlag config row.username s = none ∧ enabledFlag config name s = none

/-- A create takes a username that no other row has; a save names the row it changes as it is
named, or without any account, and a row it adds without one. -/
def RosterStep.NamesOwn (step : RosterStep) : Prop :=
  match step.edit with
  | .create => ∀ tenant, ∀ entry ∈ keyedRows config tenant step.before,
      entry.2.username = step.username →
        tenant = step.sent.identity.tenant ∧ entry.1 = step.userId world
  | .save => ∀ userId,
      Users.resolveUserId (step.sent.session.identity.getD step.sent.identity) = .ok userId →
      let rows := keyedRows config step.sent.identity.tenant step.before
      let name := (Users.ProfileForm.read step.sent.request).name
      (∀ entry ∈ rows, keyText config world entry.1 = keyText config world userId →
        Renames config entry.2 name step.before) ∧
      ((∀ entry ∈ rows, keyText config world entry.1 ≠ keyText config world userId) →
        enabledFlag config name step.before = none)

/-- A call on the user pool is not made in DEMO_MODE; elsewhere it reaches Cognito. -/
def Reaches (op : CognitoOp) (s : AppState) : Prop :=
  config.demoMode = false → world.failure s (.cognito op) = none

/-- Of all accounts the one of the origin alone changes, and as asked once Cognito is reached. -/
structure Hits (origin : Option String) (op : String → CognitoOp) (was asked : Option Bool)
    (s t : AppState) : Prop where
  own : ∀ username, origin = some username → enabledFlag config username s = was ∧
    (Reaches config world (op username) s → enabledFlag config username t = asked)
  others : ∀ username, origin ≠ some username →
    t.pool.lookup username = s.pool.lookup username ∧
      t.demoPool.lookup username = s.demoPool.lookup username

/-- The forms of a row hit the account of its origin. -/
structure FormsHit (tenant : String) (row : UserRow) (origin : Option String) (s : AppState) :
    Prop where
  toggle : ∀ sent : Submission, sent.identity.tenant = tenant → ToggleForm row sent.request →
    Hits config world origin (enableOp · !row.enabled) (some row.enabled) (some !row.enabled)
      (s.receiving sent)
      (world.run (serveAs config lower sent.request (.toggleUser row.userId) sent.identity)
        (s.receiving sent)).2
  delete : ∀ sent : Submission, sent.identity.tenant = tenant → DeleteForm row sent.request →
    Hits config world origin .adminDeleteUser (some row.enabled) none (s.receiving sent)
      (world.run (serveAs config lower sent.request (.deleteUser row.userId) sent.identity)
        (s.receiving sent)).2

/-- Every row is enabled and has the username of its origin, whose account is enabled; a row
without one has nobody's. -/
structure Standing (origin : String → String → Option String) (s : AppState) : Prop where
  keyed : ∀ tenant, RowsKeyed config world tenant s
  enabled : ∀ tenant, ∀ entry ∈ keyedRows config tenant s, entry.2.enabled = true
  own : ∀ tenant, ∀ entry ∈ keyedRows config tenant s, ∀ username,
    origin tenant entry.1 = some username →
      entry.2.username = username ∧ enabledFlag config username s = some true
  free : ∀ tenant, ∀ entry ∈ keyedRows config tenant s, origin tenant entry.1 = none →
    enabledFlag config entry.2.username s = none
  known : ∀ tenant userId, origin tenant userId ≠ none →
    ∃ entry ∈ keyedRows config tenant s, entry.1 = userId

end Definitions

/-! ## What each edit leaves standing -/

section Steps

variable {config : Config} {world : World} {lower : String → String} {trace : List RosterStep}
  {s t : AppState} {org : String → String → Option String}

theorem Unclaimed.standing (h : Unclaimed config world s) :
    Standing config world (fun _ _ => none) s where
  keyed := h.keyed
  enabled := h.enabled
  own _ _ _ _ horigin := by cases horigin
  free tenant entry hentry _ := h.free tenant entry hentry
  known _ _ hknown := absurd rfl hknown

theorem Standing.congr (h : Standing config world org s) (haccounts : accounts t = accounts s)
    (hrows : ∀ tenant, keyedRows config tenant t = keyedRows config tenant s) :
    Standing config world org t where
  keyed tenant := by
    refine ⟨?_, ?_⟩
    · rw [hrows]
      exact (h.keyed tenant).keyed
    · rw [hrows]
      exact (h.keyed tenant).userId
  enabled tenant := by
    rw [hrows]
    exact h.enabled tenant
  own tenant := by
    rw [hrows]
    intro entry hentry username horigin
    rw [enabledFlag_congr haccounts]
    exact h.own tenant entry hentry username horigin
  free tenant := by
    rw [hrows]
    intro entry hentry horigin
    rw [enabledFlag_congr haccounts]
    exact h.free tenant entry hentry horigin
  known tenant userId := by
    rw [hrows]
    exact h.known tenant userId

/-- An entry after a create is an old one, of another tenant or under another key, or new. -/
theorem CreatedRow.mem_any {tenant tenant' userId username : String}
    (created : CreatedRow config world tenant userId username s t)
    (keyed : Keyed (keyText config world) (keyedRows config tenant s)) {entry : String × UserRow}
    (hentry : entry ∈ keyedRows config tenant' t) :
    (entry ∈ keyedRows config tenant' s ∧ ¬ (tenant = tenant' ∧ userId = entry.1)) ∨
      (tenant = tenant' ∧ userId = entry.1) ∧ entry.2.username = username ∧
        entry.2.enabled = true := by
  by_cases htenant : tenant' = tenant
  · subst htenant
    rcases created.mem keyed hentry with ⟨hold, hother⟩ | ⟨hkey, -, husername, henabled⟩
    · exact .inl ⟨hold, fun hsame => hother (by rw [hsame.2])⟩
    · exact .inr ⟨⟨rfl, hkey.symm⟩, husername, henabled⟩
  · rw [created.others tenant' htenant] at hentry
    exact .inl ⟨hentry, fun hsame => htenant hsame.1.symm⟩

/-- A created row stands for the account created with it. -/
theorem CreatedRow.standing {tenant userId username : String}
    (created : CreatedRow config world tenant userId username s t)
    (h : Standing config world org s)
    (hnames : ∀ tenant', ∀ entry ∈ keyedRows config tenant' s, entry.2.username = username →
      tenant' = tenant ∧ entry.1 = userId) :
    Standing config world (fun tenant' key =>
      if tenant = tenant' ∧ userId = key then some username else org tenant' key) t := by
  have keyed := (h.keyed tenant).keyed
  have hflag : ∀ tenant', ∀ entry ∈ keyedRows config tenant' s,
      ¬ (tenant = tenant' ∧ userId = entry.1) →
        enabledFlag config entry.2.username t = enabledFlag config entry.2.username s := by
    intro tenant' entry hentry hother
    refine created.account.others _ fun hsame => hother ?_
    obtain ⟨htenant, hkey⟩ := hnames tenant' entry hentry hsame
    exact ⟨htenant.symm, hkey.symm⟩
  refine ⟨fun tenant' => created.rowsKeyed tenant' (h.keyed tenant'),
    fun tenant' entry hentry => ?_,
    fun tenant' entry hentry name horigin => ?_, fun tenant' entry hentry horigin => ?_,
    fun tenant' key hknown => ?_⟩
  · rcases created.mem_any keyed hentry with ⟨hold, -⟩ | ⟨-, -, henabled⟩
    · exact h.enabled tenant' entry hold
    · exact henabled
  · rcases created.mem_any keyed hentry with ⟨hold, hother⟩ | ⟨hsame, husername, -⟩
    · rw [if_neg hother] at horigin
      obtain ⟨hname, henabled⟩ := h.own tenant' entry hold name horigin
      refine ⟨hname, ?_⟩
      rw [← hname, hflag tenant' entry hold hother, hname]
      exact henabled
    · rw [if_pos hsame] at horigin
      cases horigin
      exact ⟨husername, created.account.enabled⟩
  · rcases created.mem_any keyed hentry with ⟨hold, hother⟩ | ⟨hsame, -⟩
    · rw [if_neg hother] at horigin
      rw [hflag tenant' entry hold hother]
      exact h.free tenant' entry hold horigin
    · rw [if_pos hsame] at horigin
      cases horigin
  · by_cases hsame : tenant = tenant' ∧ userId = key
    · obtain ⟨rfl, rfl⟩ := hsame
      exact created.exists_row keyed
    · rw [if_neg hsame] at hknown
      obtain ⟨entry, hentry, rfl⟩ := h.known tenant' key hknown
      exact created.keeps_key keyed hentry

/-- An entry after a save is an old one, or has the name and an old one's key, or the name and a
new key. -/
theorem SavedRow.mem_any {tenant tenant' userId name : String}
    (saved : SavedRow config world tenant userId name s t) (h : Standing config world org s)
    (hchanged : ∀ entry ∈ keyedRows config tenant s,
      keyText config world entry.1 = keyText config world userId → Renames config entry.2 name s)
    (hadded : (∀ entry ∈ keyedRows config tenant s,
      keyText config world entry.1 ≠ keyText config world userId) →
        enabledFlag config name s = none)
    {entry : String × UserRow} (hentry : entry ∈ keyedRows config tenant' t) :
    entry ∈ keyedRows config tenant' s ∨
      (∃ old ∈ keyedRows config tenant' s, Renames config old.2 name s ∧ entry.1 = old.1 ∧
        entry.2.username = name ∧ entry.2.enabled = old.2.enabled) ∨
      org tenant' entry.1 = none ∧ enabledFlag config name s = none ∧ entry.2.username = name ∧
        entry.2.enabled = true := by
  by_cases htenant : tenant' = tenant
  swap
  · rw [saved.others tenant' htenant] at hentry
    exact .inl hentry
  subst htenant
  rcases saved.mem (h.keyed tenant').keyed hentry with ⟨hold, -⟩ | ⟨hname, hput⟩
  · exact .inl hold
  right
  rcases hput with ⟨old, hold, hsame, hkey, -, henabled⟩ | ⟨hnone, hkey, -, henabled⟩
  · exact .inl ⟨old, hold, hchanged old hold hsame, hkey, hname, henabled⟩
  · refine .inr ⟨?_, hadded hnone, hname, henabled⟩
    rw [hkey]
    by_contra hknown
    obtain ⟨old, hold, rfl⟩ := h.known tenant' userId hknown
    exact hnone old hold rfl

/-- A saved row stands for the account it stood for. -/
theorem SavedRow.standing {tenant userId name : String}
    (saved : SavedRow config world tenant userId name s t) (haccounts : accounts t = accounts s)
    (h : Standing config world org s)
    (hchanged : ∀ entry ∈ keyedRows config tenant s,
      keyText config world entry.1 = keyText config world userId → Renames config entry.2 name s)
    (hadded : (∀ entry ∈ keyedRows config tenant s,
      keyText config world entry.1 ≠ keyText config world userId) →
        enabledFlag config name s = none) :
    Standing config world org t := by
  have keyed := (h.keyed tenant).keyed
  refine ⟨fun tenant' => saved.rowsKeyed tenant' (h.keyed tenant'), fun tenant' entry hentry => ?_,
    fun tenant' entry hentry username horigin => ?_, fun tenant' entry hentry horigin => ?_,
    fun tenant' key hknown => ?_⟩
  · rcases saved.mem_any h hchanged hadded hentry with hold | ⟨old, hold, -, -, -, henabled⟩ |
      ⟨-, -, -, henabled⟩
    · exact h.enabled tenant' entry hold
    · rw [henabled]
      exact h.enabled tenant' old hold
    · exact henabled
  · rw [enabledFlag_congr haccounts]
    rcases saved.mem_any h hchanged hadded hentry with hold |
      ⟨old, hold, hrenames, hkey, hname, -⟩ |
      ⟨hnone, -⟩
    · exact h.own tenant' entry hold username horigin
    · rw [hkey] at horigin
      obtain ⟨husername, henabled⟩ := h.own tenant' old hold username horigin
      refine ⟨?_, henabled⟩
      rcases hrenames with hsame | ⟨hnone, -⟩
      · rw [hname, ← hsame, husername]
      · rw [husername, henabled] at hnone
        cases hnone
    · rw [hnone] at horigin
      cases horigin
  · rw [enabledFlag_congr haccounts]
    rcases saved.mem_any h hchanged hadded hentry with hold |
      ⟨old, hold, hrenames, hkey, hname, -⟩ |
      ⟨-, hfree, hname, -⟩
    · exact h.free tenant' entry hold horigin
    · rw [hkey] at horigin
      rw [hname]
      rcases hrenames with hsame | ⟨-, hnone⟩
      · rw [← hsame]
        exact h.free tenant' old hold horigin
      · exact hnone
    · rw [hname]
      exact hfree
  · obtain ⟨entry, hentry, rfl⟩ := h.known tenant' key hknown
    exact saved.keeps_key keyed hentry

theorem origin_create {step : RosterStep} (h : step.edit = .create) :
    origin world (step :: trace) = fun tenant userId =>
      if step.sent.identity.tenant = tenant ∧ step.userId world = userId then some step.username
      else origin world trace tenant userId := by
  funext tenant userId
  simp only [origin, h, true_and]

theorem origin_save {step : RosterStep} (h : step.edit = .save) :
    origin world (step :: trace) = origin world trace := by
  funext tenant userId
  simp only [origin, h, reduceCtorEq, false_and, if_false]

/-- What a run leaves standing whose edits all name their own. -/
theorem RosterRun.standing (run : RosterRun config world lower trace s)
    (names : ∀ step ∈ trace, step.NamesOwn config world) :
    Standing config world (origin world trace) s := by
  induction run with
  | start unclaimed => exact unclaimed.standing
  | @next trace s t response run step before served done ih =>
    obtain ⟨hstep, hrest⟩ := List.forall_mem_cons.mp names
    have hstanding : Standing config world (origin world trace) step.before := by
      rw [before]
      exact (ih hrest).congr rfl fun _ => rfl
    have hsession : step.before.session = step.sent.session := by
      rw [before]
      rfl
    unfold RosterStep.NamesOwn at hstep
    cases hedit : step.edit with
    | create =>
      rw [hedit] at hstep served done
      rw [origin_create hedit]
      rcases run_serveCreate served with ⟨-, hcreated⟩ | ⟨hnot, -⟩
      · exact hcreated.standing hstanding hstep
      · rw [show response.created = true from done] at hnot
        cases hnot
    | save =>
      rw [hedit] at hstep served done
      rw [origin_save hedit]
      obtain ⟨haccounts, hrows⟩ := run_serveSave served
      rcases hrows with ⟨-, userId, hid, hsaved⟩ | ⟨hnot, -⟩
      · rw [hsession] at hid
        obtain ⟨hchanged, hadded⟩ := hstep userId hid
        exact hsaved.standing haccounts hstanding hchanged hadded
      · rw [show response.saved = true from done] at hnot
        cases hnot
  | unsaved run sent served undone ih =>
    obtain ⟨haccounts, hrows⟩ := run_serveSave served
    rcases hrows with ⟨hsaved, -⟩ | ⟨-, hrows⟩
    · rw [undone] at hsaved
      cases hsaved
    · exact (ih names).congr haccounts hrows

end Steps

/-! ## What the forms of a row hit -/

section Forms

variable {config : Config} {world : World} {lower : String → String} {s t : AppState}
  {username : String} {org : Option String}

/-- A request changes the entry of one username at most: in the pool, once Cognito is reached, or
in DEMO_MODE in the mock pool. -/
structure ChangesEntry (config : Config) (world : World) (op : CognitoOp) (username : String)
    (f : CognitoUser → Option CognitoUser) (g : DemoCognitoUser → Option DemoCognitoUser)
    (s t : AppState) : Prop where
  pool : ∀ key, t.pool.lookup key =
    if config.demoMode = false ∧ world.failure s (.cognito op) = none ∧ key = username then
      (s.pool.lookup username).bind f
    else s.pool.lookup key
  demoPool : ∀ key, t.demoPool.lookup key =
    if config.demoMode = true ∧ key = username then (s.demoPool.lookup username).bind g
    else s.demoPool.lookup key

theorem ChangesEntry.congr {u : AppState} {op : CognitoOp} {f : CognitoUser → Option CognitoUser}
    {g : DemoCognitoUser → Option DemoCognitoUser}
    (h : ChangesEntry config world op username f g s u) (haccounts : accounts t = accounts u) :
    ChangesEntry config world op username f g s t := by
  obtain ⟨hpool, hdemoPool⟩ := Prod.mk.inj haccounts
  refine ⟨fun key => ?_, fun key => ?_⟩
  · rw [hpool]
    exact h.pool key
  · rw [hdemoPool]
    exact h.demoPool key

theorem exec_cognito_changes (demo : config.demoMode = false) {op : CognitoOp}
    {f : CognitoUser → Option CognitoUser} (g : DemoCognitoUser → Option DemoCognitoUser)
    (h : ∀ key, (s.pool.after op).lookup key =
      if key = username then (s.pool.lookup username).bind f else s.pool.lookup key) :
    ChangesEntry config world op username f g s (world.exec s (.cognito op)).2 := by
  rw [World.exec_cognito]
  refine ⟨fun key => ?_, fun key => ?_⟩
  · by_cases hfailure : world.failure s (.cognito op) = none
    · simp only [hfailure, if_true, demo, true_and]
      exact h key
    · simp only [hfailure, if_false, false_and, and_false]
  · simp [demo]

theorem demoPool_changes (demo : config.demoMode = true) (op : CognitoOp)
    (f : CognitoUser → Option CognitoUser) {g : DemoCognitoUser → Option DemoCognitoUser}
    {demoPool : List (String × DemoCognitoUser)} {tick : Nat}
    (h : ∀ key, demoPool.lookup key =
      if key = username then (s.demoPool.lookup username).bind g else s.demoPool.lookup key) :
    ChangesEntry config world op username f g s { s with demoPool := demoPool, tick := tick } := by
  refine ⟨fun key => ?_, fun key => ?_⟩
  · simp [demo]
  · simp only [demo, true_and]
    exact h key

theorem deleteCognitoUser_changes (username : String) (s : AppState) :
    ChangesEntry config world (.adminDeleteUser username) username (fun _ => none) (fun _ => none) s
      (world.run (deleteCognitoUser config username) s).2 := by
  unfold deleteCognitoUser
  cases demo : config.demoMode with
  | true =>
    refine demoPool_changes demo _ _ fun key => (lookup_dictPop username key s.demoPool).trans ?_
    rw [Option.bind_fun_none]
  | false =>
    simp only [Bool.false_eq_true, if_false]
    rw [World.run_perform]
    refine exec_cognito_changes demo _ fun key => ?_
    rw [UserPool.lookup_after_delete, Option.bind_fun_none]

theorem cognitoSetEnabled_changes (username : String) (enabled : Bool) (s : AppState) :
    ChangesEntry config world (enableOp username enabled) username
      (fun user => some { user with enabled := enabled })
      (fun user => some { user with enabled := enabled }) s
      (world.run (cognitoSetEnabled config username enabled) s).2 := by
  cases demo : config.demoMode with
  | true =>
    obtain ⟨tick, hrun⟩ := @run_cognitoSetEnabled_demo world config s demo username enabled
    rw [hrun]
    refine demoPool_changes demo _ _ fun key => ?_
    cases huser : s.demoPool.lookup username with
    | none =>
      by_cases hkey : key = username <;> simp [hkey, huser]
    | some user => rw [lookup_dictSet, Option.bind_some]
  | false =>
    unfold cognitoSetEnabled
    simp only [demo, Bool.false_eq_true, if_false]
    rw [World.run_perform]
    refine exec_cognito_changes demo _ fun key => ?_
    rw [enableOp, UserPool.lookup_after_enable, Option.map_eq_bind]
    rfl

/-- A change of the entry that the row names hits the account of the row's origin. -/
theorem ChangesEntry.hits {op : String → CognitoOp} {f : CognitoUser → Option CognitoUser}
    {g : DemoCognitoUser → Option DemoCognitoUser} {asked : Option Bool}
    (h : ChangesEntry config world (op username) username f g s t)
    (hf : ∀ user, (f user).map CognitoUser.enabled = asked)
    (hg : ∀ user, (g user).map DemoCognitoUser.enabled = asked)
    (hown : ∀ name, org = some name → username = name ∧ enabledFlag config name s = some true)
    (hfree : org = none → enabledFlag config username s = none) :
    Hits config world org op (some true) asked s t := by
  refine ⟨fun name horigin => ?_, fun name horigin => ?_⟩
  · obtain ⟨rfl, henabled⟩ := hown name horigin
    refine ⟨henabled, fun hreaches => ?_⟩
    cases demo : config.demoMode with
    | true =>
      rw [enabledFlag_demo demo] at henabled ⊢
      rw [h.demoPool, if_pos ⟨demo, rfl⟩]
      obtain ⟨user, huser, -⟩ := Option.map_eq_some_iff.mp henabled
      rw [huser]
      exact hg user
    | false =>
      rw [enabledFlag_real demo] at henabled ⊢
      rw [h.pool, if_pos ⟨demo, hreaches demo, rfl⟩]
      obtain ⟨user, huser, -⟩ := Option.map_eq_some_iff.mp henabled
      rw [huser]
      exact hf user
  · have hnone : name = username → enabledFlag config username s = none := by
      intro heq
      subst heq
      cases org with
      | none => exact hfree rfl
      | some other =>
        obtain ⟨rfl, -⟩ := hown other rfl
        exact absurd rfl horigin
    rw [h.pool, h.demoPool]
    constructor
    · split
      · rename_i hchanges
        obtain ⟨demo, -, rfl⟩ := hchanges
        have hmissing := hnone rfl
        rw [enabledFlag_real demo, Option.map_eq_none_iff] at hmissing
        rw [hmissing]
        rfl
      · rfl
    · split
      · rename_i hchanges
        obtain ⟨demo, rfl⟩ := hchanges
        have hmissing := hnone rfl
        rw [enabledFlag_demo demo, Option.map_eq_none_iff] at hmissing
        rw [hmissing]
        rfl
      · rfl

/-- The rows a page shows are rows of the tenant. -/
theorem listUsers_rows {tenant search : String} {page pageSize : Nat} {data : UserList}
    (h : world.run (listUsers config lower tenant search page pageSize) s = (.ok data, t)) :
    ∀ row ∈ data.rows, ∃ entry ∈ keyedRows config tenant s, entry.2 = row := by
  unfold listUsers at h
  intro row hrow
  cases demo : config.demoMode with
  | true =>
    rw [if_pos demo, World.run_bind_ok (run_demoRows tenant s)] at h
    cases h
    rw [keyedRows_demo demo]
    have hshown := List.mem_of_mem_drop (List.mem_of_mem_take hrow)
    have hall : row ∈ ((s.demoDb.lookup tenant).getD []).map Prod.snd := by
      split at hshown
      · exact hshown
      · exact List.mem_of_mem_filter hshown
    exact List.mem_map.mp hall
  | false =>
    rw [demo] at h
    cases htable : tableForTenant tenant with
    | error e =>
      rw [htable] at h
      cases h
    | ok table =>
      rw [htable] at h
      change world.run (withConnection _) s = _ at h
      cases hconnect : world.failure s .connect with
      | some e =>
        rw [run_withConnection_of_failure hconnect] at h
        cases h
      | none =>
        rw [run_withConnection hconnect] at h
        obtain ⟨hbody, -⟩ := Prod.mk.inj h
        obtain ⟨total, u, hcount, hrest⟩ := World.run_bind_eq_ok.mp (Prod.ext hbody rfl)
        obtain ⟨rows, v, hselect, hrest⟩ := World.run_bind_eq_ok.mp hrest
        obtain ⟨agg, w, -, hret⟩ := World.run_bind_eq_ok.mp hrest
        cases hret
        rw [World.run_perform] at hcount hselect
        obtain ⟨-, -, rfl⟩ := World.answer_of_exec hcount
        obtain ⟨-, hanswer, -⟩ := World.answer_of_exec hselect
        obtain rfl := Except.ok.inj hanswer
        rw [keyedRows_real demo htable]
        have hcommitted : row ∈ s.rds.committed table := by
          have hshown := List.mem_of_mem_drop (List.mem_of_mem_take hrow)
          exact List.mem_of_mem_filter (List.mem_mergeSort.mp hshown)
        exact ⟨(row.userId, row), List.mem_map_of_mem hcommitted, rfl⟩

theorem manageUsersPage_calls {request : Request} {identity : Identity} :
    (Admin.manageUsersPage config lower request identity).Calls fun op =>
      op.keepsRows = true ∧ op.changesAccounts = false := by
  have hread : (listUsers config lower identity.tenant (Admin.search request) (Admin.page request)
      8).Calls fun op => op.keepsRows = true ∧ op.changesAccounts = false := by
    unfold listUsers
    split
    · exact Prog.Calls.bind (Prog.Calls.bind (perform_calls (by exact ⟨rfl, rfl⟩)) fun _ => trivial)
        fun _ => trivial
    · refine Prog.Calls.ofExcept_bind fun table htable => ?_
      refine Prog.Calls.bind (perform_calls (by exact ⟨rfl, rfl⟩)) fun _ => ?_
      refine Prog.Calls.finally' ?_ (perform_calls (by exact ⟨rfl, rfl⟩))
      refine Prog.Calls.bind (perform_calls (by exact ⟨rfl, rfl⟩)) fun _ => ?_
      refine Prog.Calls.bind (perform_calls (by exact ⟨rfl, rfl⟩)) fun _ => ?_
      exact Prog.Calls.bind (perform_calls (by exact ⟨rfl, rfl⟩)) fun _ => trivial
  refine Prog.Calls.bind hread fun _ => ?_
  refine Prog.Calls.bind (perform_calls (by exact ⟨rfl, rfl⟩)) fun _ => ?_
  exact render_calls (by exact ⟨rfl, rfl⟩) (fun _ => by exact ⟨rfl, rfl⟩) _

/-- What a page shows, and that it leaves the accounts and the rows. -/
theorem run_serveManageUsers {request : Request} {identity : Identity} {tenant search : String}
    {data : UserList} {signedIn : Option Identity} {flashes : List (String × String)}
    (h : world.run (serveAs config lower request .manageUsersPage identity) s =
      (.ok (.page 200 (.manageUsers tenant search data signedIn) flashes), t)) :
    (∀ row ∈ data.rows, ∃ entry ∈ keyedRows config identity.tenant s, entry.2 = row) ∧
      accounts t = accounts s ∧
        ∀ tenant, keyedRows config tenant t = keyedRows config tenant s := by
  obtain ⟨r, u, hview, hr, haccounts, hrows⟩ := run_served h
  change world.run (Admin.manageUsersPage config lower request identity) s = _ at hview
  have hcalls := @manageUsersPage_calls config lower request identity
  have hkept := Prog.run_frame world.exec (fun _ s hop => exec_accounts hop s)
    (hcalls.mono fun _ hop => hop.2) s
  have hsame : ∀ tenant, keyedRows config tenant u = keyedRows config tenant s := by
    intro tenant
    have hrun := @run_keyedRows config world tenant _ _ (hcalls.mono fun _ hop => hop.1) s
    rw [hview] at hrun
    exact hrun
  rw [show Prog.run world.exec _ s = _ from hview] at hkept
  refine ⟨?_, haccounts.trans hkept, fun tenant => (hrows tenant).trans (hsame tenant)⟩
  cases r with
  | error e => cases hr
  | ok response =>
    cases hr
    obtain ⟨shown, v, hlist, hrest⟩ := World.run_bind_eq_ok.mp hview
    cases hrest
    exact listUsers_rows hlist

/-- The forms of a row that stands. -/
theorem Standing.formsHit {origin : String → String → Option String} {tenant : String}
    (h : Standing config world origin s) {entry : String × UserRow}
    (hentry : entry ∈ keyedRows config tenant s) :
    FormsHit config world lower tenant entry.2 (origin tenant entry.2.userId) s := by
  have henabled := h.enabled tenant entry hentry
  have hown := h.own tenant entry hentry
  have hfree := h.free tenant entry hentry
  rw [← (h.keyed tenant).userId entry hentry] at hown hfree
  refine ⟨fun sent htenant hform => ?_, fun sent htenant hform => ?_⟩
  · have husername : Admin.formUsername sent.request entry.2.userId = entry.2.username := by
      unfold Admin.formUsername
      rw [hform.username]
      rfl
    have hasked : Admin.isTrue sent.request "enable" = false := by
      unfold Admin.isTrue
      rw [hform.enable, henabled]
      rfl
    rw [henabled]
    refine ((@cognitoSetEnabled_changes config world entry.2.username false
      (s.receiving sent)).congr ?_).hits (fun _ => rfl) (fun _ => rfl) hown hfree
    refine (serveAs_accounts config lower sent.request (.toggleUser entry.2.userId) sent.identity
      _).trans ?_
    refine (toggleUser_accounts entry.2.userId).trans ?_
    rw [husername, hasked]
  · have husername : Admin.formUsername sent.request entry.2.userId = entry.2.username := by
      unfold Admin.formUsername
      rw [hform.username]
      rfl
    rw [henabled]
    refine ((@deleteCognitoUser_changes config world entry.2.username
      (s.receiving sent)).congr ?_).hits (fun _ => rfl) (fun _ => rfl) hown hfree
    refine (serveAs_accounts config lower sent.request (.deleteUser entry.2.userId) sent.identity
      _).trans ?_
    refine (deleteUser_accounts entry.2.userId).trans ?_
    rw [husername]

end Forms

/-- The toggle and delete forms of every row that an admin's page shows change the account
created with the row, and no other. -/
theorem forms_hit_own (config : Config) (world : World) (lower : String → String)
    (trace : List RosterStep) (s : AppState) (run : RosterRun config world lower trace s)
    (names : ∀ step ∈ trace, step.NamesOwn config world) (sent : Submission) (t : AppState)
    (search : String) (data : UserList) (identity : Option Identity)
    (flashes : List (String × String))
    (shown : world.run (serveAs config lower sent.request .manageUsersPage sent.identity)
      (s.receiving sent) =
        (.ok (.page 200 (.manageUsers sent.identity.tenant search data identity) flashes), t)) :
    ∀ row ∈ data.rows, FormsHit config world lower sent.identity.tenant row
      (origin world trace sent.identity.tenant row.userId) t := by
  obtain ⟨hshown, haccounts, hrows⟩ := run_serveManageUsers shown
  have hstanding : Standing config world (origin world trace) t :=
    (run.standing names).congr haccounts hrows
  intro row hrow
  obtain ⟨entry, hentry, rfl⟩ := hshown row hrow
  rw [← hrows] at hentry
  exact hstanding.formsHit hentry

/-- A world in which every search finds every row. -/
def searchingWorld : World := { quietWorld with mysql := ⟨id, fun _ _ => true, fun _ _ => true⟩ }

/-- A form with the given fields. -/
def postForm (path : String) (fields : List (String × String)) : Request where
  method := "POST"
  path := path
  headers _ := none
  cookies _ := none
  args _ := none
  form name := fields.lookup name

/-- alice creates dora. -/
def doraCreated : RosterStep where
  edit := .create
  sent := ⟨sampleAdmin, postForm "/api/v1/admin/users"
    [("username", "dora"), ("email", "dora@a.example"), ("user_id", "u-5")], .cleared⟩
  before := { emptyState with pool := [("bob", bob)] }

/-- The state after an edit. -/
def RosterStep.after (step : RosterStep) : AppState :=
  (searchingWorld.run (serveAs sampleConfig id step.sent.request step.edit.route
    step.sent.identity) step.before).2

theorem keyedRows_start (tenant : String) :
    keyedRows sampleConfig tenant doraCreated.before = [] := by
  unfold keyedRows
  cases tableForTenant tenant <;> rfl

theorem unclaimed_start : Unclaimed sampleConfig searchingWorld doraCreated.before := by
  refine ⟨fun tenant => ⟨?_, ?_⟩, fun tenant => ?_, fun tenant => ?_⟩
  · rw [keyedRows_start]
    exact List.nodup_nil
  all_goals
    rw [keyedRows_start]
    exact List.forall_mem_nil _

theorem dora_run : RosterRun sampleConfig searchingWorld id [doraCreated] doraCreated.after :=
  RosterRun.next (.start unclaimed_start) doraCreated rfl rfl rfl

/-- alice opens the page. -/
def pageOpened : Submission :=
  ⟨sampleAdmin, { postForm "/manage-users" [] with method := "GET" }, .cleared⟩

theorem listed_single {s : AppState} {row : UserRow} (h : s.rds.committed .tenantA = [row]) :
    ∃ data u, searchingWorld.run (Admin.manageUsersPage sampleConfig id pageOpened.request
      pageOpened.identity) (s.receiving pageOpened) =
        (.ok (.page 200 (.manageUsers "TenantA" "" data none) []), u) ∧ data.rows = [row] := by
  refine ⟨_, _, rfl, ?_⟩
  show List.take 8 (List.drop 0 (List.mergeSort (List.filter _ (s.rds.committed .tenantA)) _)) = _
  rw [h]
  simp [MySql.matchesLike, searchingWorld]

theorem shown_single {s : AppState} {row : UserRow} (h : s.rds.committed .tenantA = [row]) :
    ∃ data t, searchingWorld.run (serveAs sampleConfig id pageOpened.request .manageUsersPage
      pageOpened.identity) (s.receiving pageOpened) =
        (.ok (.page 200 (.manageUsers "TenantA" "" data none) []), t) ∧ data.rows = [row] := by
  obtain ⟨data, u, hlisted, hrows⟩ := listed_single h
  obtain ⟨t, hserved⟩ := run_serveAs searchingWorld.exec sampleConfig id pageOpened.request
    .manageUsersPage pageOpened.identity (s.receiving pageOpened)
  rw [show Prog.run searchingWorld.exec (Route.manageUsersPage.view sampleConfig id
    pageOpened.request pageOpened.identity) (s.receiving pageOpened) = _ from hlisted] at hserved
  exact ⟨data, t, hserved, hrows⟩

theorem doraCreated_namesOwn : doraCreated.NamesOwn sampleConfig searchingWorld := by
  intro tenant entry hentry
  rw [keyedRows_start] at hentry
  cases hentry

/-- The forms of dora's row hit her account. -/
theorem dora_hit : ∃ (data : UserList) (t : AppState),
    data.rows = [UserRow.withDefaults "u-5" "dora" "dora@a.example" "user"] ∧
    ∀ row ∈ data.rows, FormsHit sampleConfig searchingWorld id "TenantA" row
      (origin searchingWorld [doraCreated] "TenantA" row.userId) t := by
  obtain ⟨data, t, hshown, hrows⟩ := @shown_single doraCreated.after
    (UserRow.withDefaults "u-5" "dora" "dora@a.example" "user") rfl
  refine ⟨data, t, hrows, ?_⟩
  exact forms_hit_own sampleConfig searchingWorld id [doraCreated] _ dora_run
    (by simpa using doraCreated_namesOwn) pageOpened t "" data none [] hshown

/-- dora saves the username of an account of TenantB as her name. -/
def doraSaved : RosterStep where
  edit := .save
  sent := ⟨{ sampleAdmin with role := "user", username := some "dora", userId := some "u-5" },
    postForm "/api/v1/users/userdetails" [("name", "bob"), ("email", "dora@a.example")], .cleared⟩
  before := { doraCreated.after with session := .cleared }

/-- alice deletes the row that dora has renamed. -/
def rowDeleted : Submission :=
  ⟨sampleAdmin, postForm "/api/v1/admin/users/u-5/delete"
    [("username", "bob"), ("hard_delete", "true")], .cleared⟩

/-- The delete form of a renamed row hits the account of somebody else. -/
theorem renamed_row_hits_bob : ¬ ∀ (config : Config) (world : World) (lower : String → String)
    (trace : List RosterStep) (s : AppState), RosterRun config world lower trace s →
    ∀ (sent : Submission) (t : AppState) (search : String) (data : UserList)
      (identity : Option Identity) (flashes : List (String × String)),
    world.run (serveAs config lower sent.request .manageUsersPage sent.identity)
      (s.receiving sent) =
        (.ok (.page 200 (.manageUsers sent.identity.tenant search data identity) flashes), t) →
    ∀ row ∈ data.rows, FormsHit config world lower sent.identity.tenant row
      (origin world trace sent.identity.tenant row.userId) t := by
  intro h
  have run : RosterRun sampleConfig searchingWorld id [doraSaved, doraCreated] doraSaved.after :=
    dora_run.next doraSaved rfl rfl rfl
  obtain ⟨data, t, hshown, hrows⟩ := @shown_single doraSaved.after
    (UserRow.withDefaults "u-5" "bob" "dora@a.example" "user") rfl
  obtain ⟨hpool, -⟩ := Prod.mk.inj (run_serveManageUsers hshown).2.1
  have hforms := h _ _ _ _ _ run pageOpened t "" data none [] hshown _
    (by rw [hrows]; exact List.mem_singleton_self _)
  have hkept := ((hforms.delete rowDeleted rfl ⟨rfl, rfl⟩).others "bob" (by decide)).1
  have hdeleted := ((@deleteCognitoUser_changes sampleConfig searchingWorld "bob"
    (t.receiving rowDeleted)).congr ((serveAs_accounts sampleConfig id rowDeleted.request
      (.deleteUser "u-5") rowDeleted.identity _).trans (deleteUser_accounts "u-5"))).pool "bob"
  rw [if_pos ⟨rfl, rfl, rfl⟩, Option.bind_fun_none] at hdeleted
  have hbob : t.pool.lookup "bob" = some bob := by
    rw [hpool]
    rfl
  have hsame : none = some bob := hdeleted.symm.trans (hkept.trans hbob)
  cases hsame

end TenantSaas
