import TenantSaas.App.Concurrent
import TenantSaas.Profile.Rows
import TenantSaas.Routes.Admin

/-!
# Toggling one user at once

Any number of `toggle_user` requests for one user, interleaved call by call: each writes the
flag of the account and then the flag of the row.
-/

namespace TenantSaas

/-- Whether the account of a username is enabled. -/
def accountFlag (username : String) (s : AppState) : Option Bool :=
  (s.pool.lookup username).map CognitoUser.enabled

/-- Whether a user id's row among `rows` is enabled. -/
def rowFlag (world : World) (userId : String) (rows : Table) : Option Bool :=
  (rows.find? fun row => world.mysql.eq row.userId userId).map UserRow.enabled

/-- The calls of a toggle that succeed, in order. -/
def toggleSteps (table : TenantTable) (userId username : String) (enable : Bool) :
    List (AppOp → Prop) :=
  [(· = .cognito (enableOp username enable)), (· = .connect),
    (· = .write table (.updateEnabled userId enable)), (· = .commit), (· = .close),
    (· = .session), fun op => ∃ session, op = .setSession session]

theorem transaction_follows {α : Type} {body : App α} {steps : List (AppOp → Prop)}
    (h : Prog.Follows steps body) :
    Prog.Follows ((· = .connect) :: (steps ++ [(· = .commit)]) ++ [(· = .close)])
      (transaction body) := by
  have hconnect : Prog.Follows [(· = .connect)] (perform .connect : App Unit) := .perform rfl
  have hcommit : Prog.Follows [(· = .commit)] (perform .commit : App Unit) := .perform rfl
  have hclose : Prog.Follows [(· = .close)] (perform .close : App Unit) := .perform rfl
  have hbody := h.bind fun a => (hcommit.bind fun _ => .ret a)
  exact hconnect.bind fun _ => (hbody.handle _).finally' hclose

theorem flash_follows (message category : String) :
    Prog.Follows [(· = .session), fun op => ∃ session, op = .setSession session]
      (flash message category) := by
  have hread : Prog.Follows [(· = .session)] (perform .session) := .perform rfl
  exact hread.bind fun session => .perform ⟨_, rfl⟩

theorem toggleUser_follows {config : Config} (demo : config.demoMode = false) (request : Request)
    {identity : Identity} {table : TenantTable}
    (htable : tableForTenant identity.tenant = .ok table)
    (userId : String) :
    Prog.Follows (toggleSteps table userId (Admin.formUsername request userId)
        (Admin.isTrue request "enable"))
      (Admin.toggleUser config request identity userId) := by
  unfold Admin.toggleUser cognitoSetEnabled setUserEnabled
  rw [demo, htable]
  generalize Admin.formUsername request userId = username
  generalize Admin.isTrue request "enable" = enable
  have haccount : Prog.Follows [(· = .cognito (enableOp username enable))]
      (perform (.cognito (enableOp username enable)) : App Unit) := .perform rfl
  have hwrite : Prog.Follows [(· = .write table (.updateEnabled userId enable))]
      (perform (.write table (.updateEnabled userId enable))) := .perform rfl
  have hrow := transaction_follows (hwrite.bind fun _ => .ret ())
  have hbody := haccount.bind fun _ => hrow.bind fun _ => flash_follows
    ("User '" ++ username ++ "' has been " ++ (if enable then "enabled" else "disabled") ++ ".")
    "success"
  exact (hbody.handle _).bind fun _ => .ret _

/-! ## What one call does -/

section Calls

variable {ι : Type} [DecidableEq ι] {world : World} {site : Site ι} {i : ι}

/-- A call that was answered moved the site as the connection's own state moved. -/
theorem exec_eq {op : AppOp} {a : op.Res} (h : (site.exec world i op).1 = .ok a) :
    ∃ s, world.exec (site.view i) op = (.ok a, s) ∧ (site.exec world i op).2 =
      ⟨s, Function.update site.session i s.session, site.writingAfter i op s.rds.working⟩ := by
  refine ⟨(world.exec (site.view i) op).2, Prod.ext h rfl, ?_⟩
  unfold Site.exec at h ⊢
  dsimp only at h ⊢
  rw [h]
  rfl

theorem accountFlag_of_cognito {username : String} {enable : Bool} {s t : AppState} {b : Bool}
    (hflag : accountFlag username s = some b)
    (h : world.exec s (.cognito (enableOp username enable)) = (.ok (), t)) :
    accountFlag username t = some enable := by
  obtain ⟨hfailure, -, -⟩ := World.answer_of_exec h
  have hpool := congrArg AppState.pool (@World.exec_cognito world (enableOp username enable) s)
  rw [h] at hpool
  simp only [hfailure, if_true] at hpool
  unfold accountFlag at hflag ⊢
  rw [hpool, enableOp, UserPool.lookup_after_enable, if_pos rfl]
  cases hlookup : s.pool.lookup username with
  | none =>
    rw [hlookup] at hflag
    cases hflag
  | some user => rfl

theorem rowFlag_of_write {table : TenantTable} {userId : String} {enable b : Bool} {count : Nat}
    {s t : AppState} (hflag : rowFlag world userId (s.rds.working table) = some b)
    (h : world.exec s (.write table (.updateEnabled userId enable)) = (.ok count, t)) :
    rowFlag world userId (t.rds.working table) = some enable := by
  obtain ⟨rows, happly, hworking⟩ := write_eq ((World.run_perform _ s).trans h)
  cases happly
  unfold rowFlag at hflag ⊢
  rw [hworking, Rds.setTable_self]
  show Option.map _ (List.find? _ (List.map _ _)) = _
  rw [find?_update (f := fun row => { row with enabled := enable }) fun _ => rfl]
  cases hfound : (s.rds.working table).find? fun row => world.mysql.eq row.userId userId with
  | none =>
    rw [hfound] at hflag
    cases hflag
  | some row => rfl

end Calls

/-! ## The requests together -/

section Toggles

variable {ι : Type} [DecidableEq ι] {world : World} {table : TenantTable}
  {userId username : String} {enable : ι → Bool} {account row : Bool}
  {trace : List (Call ι)} {flight flight' : Flight ι Response} {call : Call ι}

def AppOp.isCognito : AppOp → Bool
  | .cognito _ => true
  | _ => false

def AppOp.isCommit : AppOp → Bool
  | .commit => true
  | _ => false

/-- A request that has made its first `n` calls: it holds the row between its `UPDATE` and its
`COMMIT`. -/
structure Stage (table : TenantTable) (userId username : String) (enable : ι → Bool)
    (trace : List (Call ι)) (flight : Flight ι Response) (i : ι) (n : Nat) : Prop where
  rest : Prog.Follows ((toggleSteps table userId username (enable i)).drop n) (flight.progs i)
  holds : flight.site.writing.map Prod.fst = some i ↔ n = 3
  called : 0 < n → HasCalled AppOp.isCognito trace i
  committed : 3 < n → HasCalled AppOp.isCommit trace i

/-- Each flag is that of the last request that wrote it. -/
structure LastWriterWins (world : World) (table : TenantTable) (userId username : String)
    (enable : ι → Bool) (account row : Bool) (trace : List (Call ι))
    (flight : Flight ι Response) : Prop where
  stages : ∀ i, ∃ n, Stage table userId username enable trace flight i n
  account : accountFlag username flight.site.shared =
    some (((lastCaller AppOp.isCognito trace).map enable).getD account)
  row : rowFlag world userId (flight.site.shared.rds.committed table) =
    some (((lastCaller AppOp.isCommit trace).map enable).getD row)
  writing : ∀ i tables, flight.site.writing = some (i, tables) →
    rowFlag world userId (tables table) = some (enable i)

/-- The next call of a request, given what it does to the flags and to the open transaction. -/
theorem LastWriterWins.advance
    (h : LastWriterWins world table userId username enable account row trace flight)
    {i : ι} {n : Nat} (stage : Stage table userId username enable trace flight i n)
    {site : Site ι} {p : App Response}
    (rest : Prog.Follows ((toggleSteps table userId username (enable i)).drop (n + 1)) p)
    (haccount : accountFlag username site.shared =
      some (((lastCaller AppOp.isCognito (trace ++ [call])).map enable).getD account))
    (hrow : rowFlag world userId (site.shared.rds.committed table) =
      some (((lastCaller AppOp.isCommit (trace ++ [call])).map enable).getD row))
    (hwriting : ∀ j tables, site.writing = some (j, tables) →
      rowFlag world userId (tables table) = some (enable j))
    (hholds : site.writing.map Prod.fst = some i ↔ n = 2)
    (hothers : ∀ j ≠ i,
      (site.writing.map Prod.fst = some j ↔ flight.site.writing.map Prod.fst = some j))
    (hcaller : call.caller = i) (hcalled : n = 0 → call.op.isCognito = true)
    (hcommitted : n = 3 → call.op.isCommit = true) :
    LastWriterWins world table userId username enable account row (trace ++ [call])
      ⟨site, Function.update flight.progs i p⟩ := by
  refine ⟨fun j => ?_, haccount, hrow, hwriting⟩
  by_cases hj : j = i
  · subst hj
    refine ⟨n + 1, ?_, by rw [hholds]; omega, fun _ => ?_, fun hn => ?_⟩
    · show Prog.Follows _ (Function.update flight.progs j p j)
      rw [Function.update_self]
      exact rest
    · by_cases hn : n = 0
      · exact hcaller ▸ hasCalled_snoc_self (hcalled hn)
      · exact (stage.called (by omega)).snoc
    · by_cases hn : n = 3
      · exact hcaller ▸ hasCalled_snoc_self (hcommitted hn)
      · exact (stage.committed (by omega)).snoc
  · obtain ⟨m, other⟩ := h.stages j
    refine ⟨m, ?_, (hothers j hj).trans other.holds, fun hm => (other.called hm).snoc,
      fun hm => (other.committed hm).snoc⟩
    show Prog.Follows _ (Function.update flight.progs i p j)
    rw [Function.update_of_ne hj]
    exact other.rest

/-- A call elsewhere keeps the flag of the account. -/
theorem LastWriterWins.account_kept
    (h : LastWriterWins world table userId username enable account row trace flight) {i : ι}
    {a : call.op.Res} {s : AppState} (hexec : world.exec (flight.site.view i) call.op = (.ok a, s))
    (hpool : call.op.changes .pool = false) (hcognito : call.op.isCognito = false) :
    accountFlag username s =
      some (((lastCaller AppOp.isCognito (trace ++ [call])).map enable).getD account) := by
  have hkept := @exec_part world call.op .pool hpool (flight.site.view i)
  rw [hexec] at hkept
  rw [lastCaller_snoc_other hcognito, ← h.account]
  exact congrArg (fun pool => (List.lookup username pool).map CognitoUser.enabled) hkept

/-- A call that does not commit keeps the flag of the row. -/
theorem LastWriterWins.row_kept
    (h : LastWriterWins world table userId username enable account row trace flight) {i : ι}
    {a : call.op.Res} {s : AppState} (hexec : world.exec (flight.site.view i) call.op = (.ok a, s))
    (hrds : call.op.changes .committed = false) (hcommit : call.op.isCommit = false) :
    rowFlag world userId (s.rds.committed table) =
      some (((lastCaller AppOp.isCommit (trace ++ [call])).map enable).getD row) := by
  have hkept := @exec_part world call.op .committed hrds (flight.site.view i)
  rw [hexec] at hkept
  rw [lastCaller_snoc_other hcommit, ← h.row]
  exact congrArg (fun tables => rowFlag world userId (tables table)) hkept

/-- A call that changes neither a flag nor the open transaction. -/
theorem LastWriterWins.quiet
    (h : LastWriterWins world table userId username enable account row trace flight)
    {i : ι} {n : Nat} (stage : Stage table userId username enable trace flight i n)
    {op : AppOp} {a : op.Res} {s : AppState} {p : App Response}
    (hexec : world.exec (flight.site.view i) op = (.ok a, s)) (hop : call.op = op)
    (rest : Prog.Follows ((toggleSteps table userId username (enable i)).drop (n + 1)) p)
    (hpool : op.changes .pool = false) (hrds : op.changes .committed = false)
    (hcognito : op.isCognito = false) (hcommit : op.isCommit = false)
    (hsame : flight.site.writingAfter i op s.rds.working = flight.site.writing)
    (hn : n ≠ 0 ∧ n ≠ 2 ∧ n ≠ 3) (hcaller : call.caller = i) (session : ι → Session) :
    LastWriterWins world table userId username enable account row (trace ++ [call])
      ⟨⟨s, session, flight.site.writingAfter i op s.rds.working⟩,
        Function.update flight.progs i p⟩ := by
  subst hop
  apply h.advance stage rest
  · exact h.account_kept hexec hpool hcognito
  · exact h.row_kept hexec hrds hcommit
  · intro j tables htables
    exact h.writing j tables (hsame.symm.trans htables)
  · show (flight.site.writingAfter i call.op s.rds.working).map Prod.fst = some i ↔ _
    rw [hsame, stage.holds]
    omega
  · intro j _
    show (flight.site.writingAfter i call.op s.rds.working).map Prod.fst = some j ↔ _
    rw [hsame]
  · exact hcaller
  · exact fun h => absurd h hn.1
  · exact fun h => absurd h hn.2.2

/-- The first call sets the flag of the account. -/
theorem LastWriterWins.setsAccount
    (h : LastWriterWins world table userId username enable account row trace flight)
    {i : ι} (stage : Stage table userId username enable trace flight i 0)
    {s : AppState} {p : App Response}
    (hop : call = ⟨i, .cognito (enableOp username (enable i)), .ok ()⟩)
    (hexec : world.exec (flight.site.view i) (.cognito (enableOp username (enable i))) =
      (.ok (), s))
    (rest : Prog.Follows ((toggleSteps table userId username (enable i)).drop 1) p)
    (session : ι → Session) :
    LastWriterWins world table userId username enable account row (trace ++ [call])
      ⟨⟨s, session, flight.site.writing⟩, Function.update flight.progs i p⟩ := by
  subst hop
  apply h.advance stage rest
  · rw [lastCaller_snoc rfl]
    have haccount : accountFlag username (flight.site.view i) = some _ := h.account
    exact accountFlag_of_cognito haccount hexec
  · exact h.row_kept hexec rfl rfl
  · exact h.writing
  · exact stage.holds.trans (by simp)
  · exact fun j _ => Iff.rfl
  · rfl
  · exact fun _ => rfl
  · exact fun h => absurd h (by simp)

/-- A request that writes its row holds it alone. -/
theorem LastWriterWins.writesRow
    (h : LastWriterWins world table userId username enable account row trace flight)
    {i : ι} (stage : Stage table userId username enable trace flight i 2)
    {count : Nat} {s : AppState} {p : App Response}
    (hop : call = ⟨i, .write table (.updateEnabled userId (enable i)), .ok count⟩)
    (hexec : world.exec (flight.site.view i) (.write table (.updateEnabled userId (enable i))) =
      (.ok count, s))
    (admitted : flight.site.admits i (.write table (.updateEnabled userId (enable i))) = true)
    (rest : Prog.Follows ((toggleSteps table userId username (enable i)).drop 3) p)
    (session : ι → Session) :
    LastWriterWins world table userId username enable account row (trace ++ [call])
      ⟨⟨s, session, some (i, s.rds.working)⟩, Function.update flight.progs i p⟩ := by
  subst hop
  -- nobody holds the row: this request does not, and for another it would have to wait
  have hnone : flight.site.writing = none := by
    cases hwriting : flight.site.writing with
    | none => rfl
    | some held =>
      have hown : (held.1 == i) = true := by
        simpa [Site.admits, hwriting] using admitted
      have hthree := stage.holds.mp (by rw [hwriting, ← beq_iff_eq.mp hown]; rfl)
      simp at hthree
  have hview : (flight.site.view i).rds.working = flight.site.shared.rds.committed := by
    simp only [Site.view, Site.tables, hnone]
  apply h.advance stage rest
  · exact h.account_kept hexec rfl rfl
  · exact h.row_kept hexec rfl rfl
  · rintro j tables ⟨⟩
    have hrow := h.row
    rw [← hview] at hrow
    exact rowFlag_of_write hrow hexec
  · exact iff_of_true rfl rfl
  · intro j hj
    rw [hnone]
    show some i = some j ↔ none = some j
    simpa using Ne.symm hj
  · rfl
  · exact fun h => absurd h (by simp)
  · exact fun h => absurd h (by simp)

/-- What a request wrote becomes what is committed. -/
theorem LastWriterWins.commits
    (h : LastWriterWins world table userId username enable account row trace flight)
    {i : ι} (stage : Stage table userId username enable trace flight i 3)
    {s : AppState} {p : App Response} (hop : call = ⟨i, .commit, .ok ()⟩)
    (hexec : world.exec (flight.site.view i) .commit = (.ok (), s))
    (rest : Prog.Follows ((toggleSteps table userId username (enable i)).drop 4) p)
    (session : ι → Session) :
    LastWriterWins world table userId username enable account row (trace ++ [call])
      ⟨⟨s, session, flight.site.writingAfter i .commit s.rds.working⟩,
        Function.update flight.progs i p⟩ := by
  subst hop
  obtain ⟨tables, hwriting⟩ : ∃ tables, flight.site.writing = some (i, tables) := by
    obtain ⟨⟨j, tables⟩, hheld, rfl⟩ := Option.map_eq_some_iff.mp (stage.holds.mpr rfl)
    exact ⟨tables, hheld⟩
  have hcommitted : s.rds.committed = tables := by
    obtain ⟨-, -, rfl⟩ := World.answer_of_exec hexec
    show flight.site.tables i = tables
    simp only [Site.tables, hwriting, if_true]
  have hafter : flight.site.writingAfter i .commit s.rds.working = none :=
    if_pos (by rw [hwriting]; rfl)
  rw [hafter]
  apply h.advance stage rest
  · exact h.account_kept hexec rfl rfl
  · rw [lastCaller_snoc rfl, hcommitted]
    exact h.writing i tables hwriting
  · intro j held hheld
    cases hheld
  · simp
  · intro j hj
    rw [hwriting]
    simpa using Ne.symm hj
  · rfl
  · exact fun h => absurd h (by simp)
  · exact fun _ => rfl

theorem LastWriterWins.step
    (h : LastWriterWins world table userId username enable account row trace flight)
    (move : Flight.Move world flight call flight') (success : call.answer.isOk = true) :
    LastWriterWins world table userId username enable account row (trace ++ [call]) flight' := by
  obtain ⟨i, op, next, prog, admitted⟩ := move
  obtain ⟨a, hanswer⟩ := isOk_eq_true.mp success
  obtain ⟨s, hexec, hsite⟩ := exec_eq hanswer
  obtain ⟨n, stage⟩ := h.stages i
  have hrest := stage.rest
  rw [prog] at hrest
  dsimp only at hanswer
  rw [hsite, hanswer]
  rcases n with _ | _ | _ | _ | _ | _ | _ | n
  case succ.succ.succ.succ.succ.succ.succ =>
    have hdone : (toggleSteps table userId username (enable i)).drop (n + 7) = [] :=
      List.drop_eq_nil_of_le (Nat.le_add_left _ _)
    rw [hdone] at hrest
    obtain ⟨b, hret⟩ := hrest
    cases hret
  all_goals
    obtain ⟨op', next', hcall, hop, hnext⟩ := hrest
    cases hcall
  · subst hop
    exact h.setsAccount stage rfl hexec (hnext a) _
  · subst hop
    exact h.quiet stage hexec rfl (hnext a) rfl rfl rfl rfl rfl (by decide) rfl _
  · subst hop
    exact h.writesRow stage rfl hexec admitted (hnext a) _
  · subst hop
    exact h.commits stage rfl hexec (hnext a) _
  · subst hop
    refine h.quiet stage hexec rfl (hnext a) rfl rfl rfl rfl ?_ (by decide) rfl _
    exact if_neg fun hown => by simpa using stage.holds.mp hown
  · subst hop
    exact h.quiet stage hexec rfl (hnext a) rfl rfl rfl rfl rfl (by decide) rfl _
  · obtain ⟨session, rfl⟩ := hop
    exact h.quiet stage hexec rfl (hnext a) rfl rfl rfl rfl rfl (by decide) rfl _

theorem LastWriterWins.run
    (h : LastWriterWins world table userId username enable account row [] flight)
    (run : Flight.Run world flight trace flight')
    (success : ∀ call ∈ trace, call.answer.isOk = true) :
    LastWriterWins world table userId username enable account row trace flight' := by
  induction run with
  | nil => exact h
  | @snoc trace flight₁ flight₂ call run move ih =>
    have hrest := ih fun c hc => success c (List.mem_append_left _ hc)
    exact hrest.step move (success call (by simp))

omit [DecidableEq ι] in
/-- A request that has been answered has written both flags. -/
theorem Stage.finished {i : ι} {n : Nat}
    (stage : Stage table userId username enable trace flight i n) {response : Response}
    (h : flight.progs i = .ret response) :
    HasCalled AppOp.isCognito trace i ∧ HasCalled AppOp.isCommit trace i := by
  have hrest := stage.rest
  rw [h] at hrest
  have hn : 6 < n := by
    by_contra hless
    have hlength : n < (toggleSteps table userId username (enable i)).length := by
      simp only [toggleSteps, List.length_cons, List.length_nil]
      omega
    rw [List.drop_eq_getElem_cons hlength] at hrest
    obtain ⟨op, next, hcall, -⟩ := hrest
    cases hcall
  exact ⟨stage.called (by omega), stage.committed (by omega)⟩

end Toggles

/-- Concurrent `toggle_user` requests of admins of one tenant for one user, none of which has
been looked at yet. -/
structure TogglesOf {ι : Type} [DecidableEq ι] (config : Config) (tenant userId username : String)
    (requests : ι → Request) (identities : ι → Identity) (flight : Flight ι Response) : Prop where
  tenants : ∀ i, (identities i).tenant = tenant
  usernames : ∀ i, Admin.formUsername (requests i) userId = username
  progs : ∀ i, flight.progs i = Admin.toggleUser config (requests i) (identities i) userId
  idle : flight.site.writing = none

section Answered

variable {ι : Type} [DecidableEq ι] {config : Config} {world : World}
  {tenant userId username : String} {requests : ι → Request} {identities : ι → Identity}
  {init final : Flight ι Response} {table : TenantTable} {user : CognitoUser} {stored : UserRow}

/-- Before the first call each flag is that of its store. -/
theorem TogglesOf.lastWriterWins (production : config.demoMode = false)
    (toggles : TogglesOf config tenant userId username requests identities init)
    (htable : tableForTenant tenant = .ok table)
    (huser : init.site.shared.pool.lookup username = some user)
    (hstored : storedRow config world tenant userId init.site.shared = some stored) :
    LastWriterWins world table userId username (fun i => Admin.isTrue (requests i) "enable")
      user.enabled stored.enabled [] init := by
  refine ⟨fun i => ⟨0, ?_, ?_, by simp, by simp⟩, ?_, ?_, fun i tables hwriting => ?_⟩
  · have htenant : tableForTenant (identities i).tenant = .ok table := by
      rw [toggles.tenants i, htable]
    have hfollows := toggleUser_follows production (requests i) htenant userId
    rw [toggles.usernames i] at hfollows
    rw [toggles.progs i]
    exact hfollows
  · rw [toggles.idle]
    simp
  · exact congrArg (Option.map CognitoUser.enabled) huser
  · rw [storedRow_real production htable] at hstored
    exact congrArg (Option.map UserRow.enabled) hstored
  · rw [toggles.idle] at hwriting
    cases hwriting

/-- All requests have written both flags in the end, and each flag is that of its last writer. -/
theorem TogglesOf.answered [Nonempty ι] (production : config.demoMode = false)
    (toggles : TogglesOf config tenant userId username requests identities init)
    (account : init.site.shared.pool.lookup username ≠ none)
    (row : storedRow config world tenant userId init.site.shared ≠ none)
    {trace : List (Call ι)} (run : init.Run world trace final)
    (success : ∀ call ∈ trace, call.answer.isOk = true) (finished : final.Finished) :
    (∀ i, HasCalled AppOp.isCognito trace i ∧ HasCalled AppOp.isCommit trace i) ∧
      ∃ first second, lastCaller AppOp.isCognito trace = some first ∧
        lastCaller AppOp.isCommit trace = some second ∧
        accountFlag username final.site.shared =
          some (Admin.isTrue (requests first) "enable") ∧
        (storedRow config world tenant userId final.site.shared).map UserRow.enabled =
          some (Admin.isTrue (requests second) "enable") := by
  obtain ⟨user, huser⟩ := Option.ne_none_iff_exists'.mp account
  obtain ⟨stored, hstored⟩ := Option.ne_none_iff_exists'.mp row
  cases htable : tableForTenant tenant with
  | error e => simp [storedRow, keyedRows, production, htable] at row
  | ok table =>
    have hfinal := (toggles.lastWriterWins production htable huser hstored).run run success
    have hcalled : ∀ i, HasCalled AppOp.isCognito trace i ∧ HasCalled AppOp.isCommit trace i := by
      intro i
      obtain ⟨response, hresponse⟩ := finished i
      obtain ⟨n, stage⟩ := hfinal.stages i
      exact stage.finished hresponse
    obtain ⟨i⟩ := ‹Nonempty ι›
    obtain ⟨first, hfirst⟩ := (hcalled i).1.exists_last
    obtain ⟨second, hsecond⟩ := (hcalled i).2.exists_last
    have haccount := hfinal.account
    have hrow := hfinal.row
    rw [hfirst] at haccount
    rw [hsecond] at hrow
    refine ⟨hcalled, first, second, hfirst, hsecond, haccount, ?_⟩
    rw [storedRow_real production htable]
    exact hrow

end Answered

/-- When all requests have been answered, the flag of the account is the flag of the row exactly
when the request that wrote the account last asked for the same as the one that wrote the row
last; so it is if all ask for the same, and if no two requests overlap. -/
theorem flags_agree_iff {ι : Type} [DecidableEq ι] [Nonempty ι] (config : Config) (world : World)
    (tenant userId username : String) (requests : ι → Request) (identities : ι → Identity)
    (production : config.demoMode = false) (init final : Flight ι Response)
    (toggles : TogglesOf config tenant userId username requests identities init)
    (account : init.site.shared.pool.lookup username ≠ none)
    (row : storedRow config world tenant userId init.site.shared ≠ none)
    (trace : List (Call ι)) (run : init.Run world trace final)
    (success : ∀ call ∈ trace, call.answer.isOk = true) (finished : final.Finished) :
    let agree := accountFlag username final.site.shared =
      (storedRow config world tenant userId final.site.shared).map UserRow.enabled
    (agree ↔ (lastCaller AppOp.isCognito trace).map (fun i => Admin.isTrue (requests i) "enable") =
      (lastCaller AppOp.isCommit trace).map fun i => Admin.isTrue (requests i) "enable") ∧
    ((∀ i j, Admin.isTrue (requests i) "enable" = Admin.isTrue (requests j) "enable") → agree) ∧
    (InTurn trace → agree) := by
  intro agree
  obtain ⟨hcalled, first, second, hfirst, hsecond, haccount, hrow⟩ :=
    toggles.answered production account row run success finished
  have hiff : agree ↔ Admin.isTrue (requests first) "enable" =
      Admin.isTrue (requests second) "enable" := by
    show _ = _ ↔ _
    rw [haccount, hrow, Option.some_inj]
  refine ⟨?_, fun hsame => hiff.mpr (hsame first second), fun hturns => hiff.mpr ?_⟩
  · rw [hiff, hfirst, hsecond]
    exact Option.some_inj.symm
  · have hlast := hturns.lastCaller_eq (fun i => (hcalled i).1) fun i => (hcalled i).2
    rw [hfirst, hsecond] at hlast
    rw [Option.some.inj hlast]

/-! ## Two requests that cross -/

/-- Enable or disable alan. -/
def toggleAlan (enable : Bool) : Request where
  method := "POST"
  path := "/api/v1/admin/users/u-2/toggle"
  headers _ := none
  cookies _ := none
  args _ := none
  form name :=
    if name = "username" then some "alan"
    else if name = "enable" then some (if enable then "true" else "false")
    else none

/-- One admin enables alan while another disables him. -/
def crossingToggles : Flight Bool Response where
  site :=
    { shared := { emptyState with
        pool := [("alan", ⟨[], ["TenantA_user"], true⟩)]
        rds := ⟨fun _ => [UserRow.withDefaults "u-2" "alan" "alan@a.example" "user"], fun _ => []⟩ }
      session := fun _ => .cleared
      writing := none }
  progs enable := Admin.toggleUser sampleConfig (toggleAlan enable) sampleAdmin "u-2"

theorem crossingToggles_toggles : TogglesOf sampleConfig "TenantA" "u-2" "alan" toggleAlan
    (fun _ => sampleAdmin) crossingToggles :=
  ⟨fun _ => rfl, fun _ => rfl, fun _ => rfl, rfl⟩

/-- What is said about the end of a schedule: every call was answered, every request is done, and
the two flags. -/
def outcome (schedule : List Bool) : Option (Bool × Bool × Option Bool × Option Bool) :=
  (crossingToggles.play quietWorld schedule).map fun played =>
    (played.1.all fun call => call.answer.isOk,
      (played.2.progs true).isRet && (played.2.progs false).isRet,
      accountFlag "alan" played.2.site.shared,
      (storedRow sampleConfig quietWorld "TenantA" "u-2" played.2.site.shared).map
        UserRow.enabled)

theorem run_of_outcome {schedule : List Bool} {account row : Option Bool}
    (h : outcome schedule = some (true, true, account, row)) :
    ∃ trace final, crossingToggles.Run quietWorld trace final ∧
      (∀ call ∈ trace, call.answer.isOk = true) ∧ final.Finished ∧
      accountFlag "alan" final.site.shared = account ∧
      (storedRow sampleConfig quietWorld "TenantA" "u-2" final.site.shared).map
        UserRow.enabled = row := by
  obtain ⟨⟨trace, final⟩, hplay, hend⟩ := Option.map_eq_some_iff.mp h
  simp only [Prod.mk.injEq, Bool.and_eq_true, List.all_eq_true] at hend
  obtain ⟨hanswers, ⟨htrue, hfalse⟩, haccount, hrow⟩ := hend
  refine ⟨trace, final, Flight.run_of_play hplay, hanswers, fun enable => ?_, haccount, hrow⟩
  cases enable with
  | false => exact Prog.isRet_iff.mp hfalse
  | true => exact Prog.isRet_iff.mp htrue

/-- One request after the other. -/
theorem flags_agree_in_turn : ∃ trace final,
    crossingToggles.Run quietWorld trace final ∧ final.Finished ∧
      (accountFlag "alan" final.site.shared =
          (storedRow sampleConfig quietWorld "TenantA" "u-2" final.site.shared).map
            UserRow.enabled ↔
        (lastCaller AppOp.isCognito trace).map (fun i => Admin.isTrue (toggleAlan i) "enable") =
          (lastCaller AppOp.isCommit trace).map fun i => Admin.isTrue (toggleAlan i) "enable") := by
  have hturns : outcome (List.replicate 7 true ++ List.replicate 7 false) =
      some (true, true, some false, some false) := rfl
  obtain ⟨trace, final, run, success, finished, -, -⟩ := run_of_outcome hturns
  exact ⟨trace, final, run, finished, (flags_agree_iff sampleConfig quietWorld "TenantA" "u-2"
    "alan" toggleAlan (fun _ => sampleAdmin) rfl crossingToggles final crossingToggles_toggles
    (by decide) (by decide) trace run success finished).1⟩

/-- Enabled in Cognito last, disabled in the table last. -/
theorem flags_cross : ¬ ∀ (config : Config) (world : World) (tenant userId username : String)
    (requests : Bool → Request) (identities : Bool → Identity), config.demoMode = false →
    ∀ init final : Flight Bool Response,
      TogglesOf config tenant userId username requests identities init →
      init.site.shared.pool.lookup username ≠ none →
      storedRow config world tenant userId init.site.shared ≠ none →
      ∀ trace, init.Run world trace final → (∀ call ∈ trace, call.answer.isOk = true) →
        final.Finished → accountFlag username final.site.shared =
          (storedRow config world tenant userId final.site.shared).map UserRow.enabled := by
  intro h
  have hcross : outcome ([false] ++ List.replicate 7 true ++ List.replicate 6 false) =
      some (true, true, some true, some false) := rfl
  obtain ⟨trace, final, run, success, finished, haccount, hrow⟩ := run_of_outcome hcross
  have hagree := h sampleConfig quietWorld "TenantA" "u-2" "alan" toggleAlan (fun _ => sampleAdmin)
    rfl crossingToggles final crossingToggles_toggles (by decide) (by decide) trace run success
    finished
  rw [haccount, hrow] at hagree
  cases hagree

end TenantSaas
