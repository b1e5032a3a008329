import TenantSaas.Tenancy.Within

/-!
# Noninterference between tenants

Requests of a tenant, over all guarded routes and all ways to be authenticated: what they
answer and leave depends on nothing of another tenant, they leave other tenants' data alone,
and their usage event is the tenant's.
-/

namespace TenantSaas

/-- At most one usage event was emitted between `s` and `t`, and it names the tenant. -/
def EmitsFor (tenant : String) (s t : AppState) : Prop :=
  ∃ sent recorded, t.queue = s.queue ++ sent ∧ t.demoEvents = s.demoEvents ++ recorded ∧
    sent.length + recorded.length ≤ 1 ∧
    (∀ message ∈ sent, message.2 = tenant ∧ ∃ event, message.1 = .dumps event ∧
      event.getItem "tenant_id" = .ok (.str tenant)) ∧
    ∀ event ∈ recorded, event.getItem "tenant_id" = .ok (.str tenant)

/-! ## The guards -/

section Guards

variable {config : Config} {request : Request} {tenant : String}

theorem off_of_readsIdentity {op : AppOp} (h : op.readsIdentity = true) : op.Off tenant := by
  cases op <;> trivial

theorem off_of_guardsAdmin {op : AppOp} (h : op.guardsAdmin = true) : op.Off tenant := by
  cases op <;> trivial

theorem refreshTokens_within (refreshToken : Json) :
    Within tenant (refreshTokens refreshToken) := by
  refine .bind (.bind (.perform trivial) fun reply => ?_) fun body => ?_
  · cases reply with
    | unreachable => exact .throw _
    | http status body =>
      show Within _ (if _ then _ else _)
      split
      · exact .ofExcept _
      · exact .throw _
  · refine .bind (.ofExcept _) fun idToken => ?_
    refine .bind (.ofExcept _) fun accessToken => ?_
    refine .bind (.ofExcept _) fun expiresIn => ?_
    exact .bind (.ofExcept _) fun tokenType => .pure _

theorem refreshSessionTokens_within (refreshToken : Json) :
    Within tenant (refreshSessionTokens refreshToken) := by
  refine .tryCatch ?_ fun e => ?_
  · refine .bind (refreshTokens_within refreshToken) fun newTokens => ?_
    refine .bind (.perform trivial) fun session => ?_
    refine .bind (.perform trivial) fun _ => ?_
    refine .bind (.perform trivial) fun now => ?_
    refine .bind (.ofExcept _) fun expiresIn => ?_
    refine .bind (.perform trivial) fun session => ?_
    exact .bind (.perform trivial) fun _ => .pure _
  · cases e <;> first | exact .throw _ | exact .bind (.perform trivial) fun _ => .pure _

theorem refreshSessionTokensIfNeeded_within : Within tenant refreshSessionTokensIfNeeded := by
  refine .bind (.perform trivial) fun session => ?_
  cases session.tokenExpiresAt with
  | none => exact .pure _
  | some expiresAt =>
    show Within _ (if _ then _ else _)
    split
    · exact .pure _
    refine .bind (.perform trivial) fun now => ?_
    split
    · exact .pure _
    split
    · exact .bind (.perform trivial) fun _ => .pure _
    · exact refreshSessionTokens_within _

theorem loginRequired_within : Within tenant (loginRequired config request) := by
  have hresolve : Within tenant (resolveIdentity config request) :=
    .calls ((resolveIdentity_calls config request).mono fun _ => off_of_readsIdentity)
  refine .bind hresolve fun identity => ?_
  cases identity with
  | none =>
    refine .bind (.calls ?_) fun _ => .pure _
    exact unauthenticatedResponse_calls trivial (fun _ => trivial) config request
  | some identity =>
    refine .bind (.perform trivial) fun session => ?_
    split
    · refine .bind refreshSessionTokensIfNeeded_within fun refreshed => ?_
      split
      · exact .pure _
      · exact .bind (flash_within _ _) fun _ => .pure _
    · exact .pure _

theorem guard_within (route : Route) : Within tenant (route.guard config request) := by
  unfold Route.guard
  split
  · exact .calls ((adminRequired_calls config request).mono fun _ => off_of_guardsAdmin)
  · exact loginRequired_within

end Guards

/-! ## The metering -/

section Metering

variable {world : World} {config : Config} {tenant : String} {s t : AppState}

theorem exec_meters_agree {op : AppOp} (hop : op.meters = true) (h : AgreeFor tenant s t) :
    (world.exec s op).1 = (world.exec t op).1 ∧
      AgreeFor tenant (world.exec s op).2 (world.exec t op).2 := by
  have htick := h.tick
  have hticked : ∀ {s t : AppState}, AgreeFor tenant s t →
      ∀ n, AgreeFor tenant { s with tick := n } { t with tick := n } :=
    fun h n => { h with tick := rfl }
  cases op with
  | uuid4 => exact exec_alike hticked htick h (by simp only [World.answer, htick]) h
  | utcnow => exact exec_alike hticked htick h (by simp only [World.answer, htick]) h
  | sendMessage body tenantAttribute => exact exec_alike hticked htick h rfl { h with }
  | recordDemoEvent event => exact exec_alike hticked htick h rfl { h with }
  | _ => cases hop

/-- What metering does to the state. -/
def handOver (s : AppState) (sent : List (Body × String)) (recorded : List Json) (tick : Nat) :
    AppState :=
  { s with queue := s.queue ++ sent, demoEvents := s.demoEvents ++ recorded, tick := tick }

theorem handOver_nothing (s : AppState) (tick : Nat) :
    handOver s [] [] tick = { s with tick := tick } := by
  simp [handOver]

theorem emitsFor_nothing (tenant : String) (s : AppState) (tick : Nat) :
    EmitsFor tenant s { s with tick := tick } :=
  ⟨[], [], by simp, by simp, by simp, by simp, by simp⟩

theorem run_publish {event : Json} (htenant : event.getItem "tenant_id" = .ok (.str tenant))
    (s : AppState) : ∃ result sent recorded tick,
    world.run (publish config event tenant) s = (result, handOver s sent recorded tick) ∧
      EmitsFor tenant s (handOver s sent recorded tick) := by
  unfold publish
  by_cases hdemo : (config.demoMode || !config.usageMeteringEnabled) = true
  · rw [if_pos hdemo]
    refine ⟨.ok (), [], [event], s.tick + 1, ?_, [], [event], rfl, rfl, by simp, by simp, ?_⟩
    · rw [handOver, List.append_nil]
      rfl
    · intro e he
      rw [List.mem_singleton.mp he, htenant]
  rw [if_neg hdemo]
  by_cases hurl : config.usageEventsQueueUrl = ""
  · rw [if_pos hurl]
    refine ⟨.ok (), [], [], s.tick, ?_, ?_⟩ <;> rw [handOver_nothing]
    · rfl
    · exact emitsFor_nothing tenant s s.tick
  rw [if_neg hurl, World.run_perform]
  cases hfailure : world.failure s (.sendMessage (.dumps event) tenant) with
  | some e =>
    rw [World.exec_of_failure hfailure]
    refine ⟨.error e, [], [], s.tick + 1, ?_, ?_⟩ <;> rw [handOver_nothing]
    exact emitsFor_nothing tenant s _
  | none =>
    rw [World.exec_of_answer hfailure]
    refine ⟨.ok (), [(.dumps event, tenant)], [], s.tick + 1, ?_, [(.dumps event, tenant)], [], rfl,
      rfl, by simp, ?_, by simp⟩
    · rw [handOver, List.append_nil]
      rfl
    · intro message hmessage
      rw [List.mem_singleton.mp hmessage]
      exact ⟨rfl, event, rfl, htenant⟩

/-- Metering never raises, and hands over at most one event, that of the identity. -/
theorem run_meterUsage (request : Request) (identity : Identity) (response : Response)
    (s : AppState) : ∃ sent recorded tick,
    world.run (meterUsage config request (some identity) response) s =
      (.ok (), handOver s sent recorded tick) ∧
    EmitsFor identity.tenant s (handOver s sent recorded tick) := by
  unfold meterUsage
  generalize request.method = method, request.path = path
  generalize (response.status : Int) = statusCode
  unfold recordApiUsage
  by_cases hoff : (!config.usageMeteringEnabled && !config.demoMode) = true
  · rw [if_pos hoff]
    refine ⟨[], [], s.tick, ?_, ?_⟩ <;> rw [handOver_nothing]
    · rfl
    · exact emitsFor_nothing _ s s.tick
  simp only [hoff, Bool.false_eq_true, if_false]
  by_cases hbillable : (!isBillableStatus statusCode) = true
  · rw [if_pos hbillable]
    refine ⟨[], [], s.tick, ?_, ?_⟩ <;> rw [handOver_nothing]
    · rfl
    · exact emitsFor_nothing _ s s.tick
  rw [if_neg hbillable]
  generalize hevent : buildUsageEvent identity method path statusCode 1 (world.uuid s.tick)
    (world.now (s.tick + 1)) = event
  have htenant : event.getItem "tenant_id" = .ok (.str identity.tenant) := by
    rw [← hevent]
    rfl
  have hbody : world.run (do
      let eventId ← perform .uuid4
      let now ← perform .utcnow
      publish config (buildUsageEvent identity method path statusCode 1 eventId now)
        identity.tenant) s = world.run (publish config event identity.tenant)
        { s with tick := s.tick + 2 } := by
    rw [← hevent]
    rfl
  obtain ⟨result, sent, recorded, tick, hrun, hemits⟩ :=
    @run_publish world config identity.tenant event htenant { s with tick := s.tick + 2 }
  refine ⟨sent, recorded, tick, ?_, hemits⟩
  cases result with
  | ok _ => exact World.run_tryCatch_ok (hbody.trans hrun)
  | error e => exact World.run_tryCatch_error (hbody.trans hrun)

theorem meterUsage_alike (config : Config) (request : Request) (identity : Identity)
    (response : Response) (tenant : String) :
    Prog.Alike world.exec (AgreeFor tenant)
      (meterUsage config request (some identity) response) := by
  have hcalls : (meterUsage config request (some identity) response).Calls
      fun op => op.meters = true :=
    recordApiUsage_calls config identity _ _ _ _ (by rfl) (by rfl) fun _ _ => ⟨by rfl, by rfl⟩
  refine Prog.Alike.of_calls ?_ hcalls
  intro op s t hop hst
  exact exec_meters_agree hop hst

theorem EmitsFor.of_silent {s₀ : AppState} (hsilent : Silent s₀ s) (h : EmitsFor tenant s t) :
    EmitsFor tenant s₀ t := by
  obtain ⟨sent, recorded, hqueue, hevents, hrest⟩ := h
  rw [hsilent.1] at hqueue
  rw [hsilent.2] at hevents
  exact ⟨sent, recorded, hqueue, hevents, hrest⟩

theorem OthersKept.handOver {s₀ : AppState} (h : OthersKept tenant s₀ s)
    (sent : List (Body × String)) (recorded : List Json) (tick : Nat) :
    OthersKept tenant s₀ (handOver s sent recorded tick) :=
  ⟨h.table, h.demoDb, h.aggregate⟩

end Metering

/-! ## Requests -/

/-- What holds of two requests from `s` and `t` that end in `s'` and `t'`. -/
structure Noninterfering {α : Type} (tenant : String) (s t : AppState)
    (s' t' : Except PyError α × AppState) : Prop where
  response : s'.1 = t'.1
  agree : AgreeFor tenant s'.2 t'.2
  left : OthersKept tenant s s'.2
  right : OthersKept tenant t t'.2
  leftEvent : EmitsFor tenant s s'.2
  rightEvent : EmitsFor tenant t t'.2

section Requests

variable {config : Config} {world : World} {lower : String → String} {request : Request}
  {route : Route} {identity : Identity} {s t : AppState}

/-- The view behind the guard, and its metering. -/
theorem serveAs_noninterfering {u v : AppState} (h : Isolated identity.tenant s t u v) :
    Noninterfering identity.tenant s t
      (world.run (serveAs config lower request route identity) u)
      (world.run (serveAs config lower request route identity) v) := by
  have hview : Within identity.tenant
      (handleErrors (route.view config lower request identity)) :=
    .tryCatch (view_within lower route) fun _ => .pure _
  obtain ⟨hresponse, hnext⟩ := hview world s t u v h
  unfold serveAs
  rcases hu : world.run (handleErrors (route.view config lower request identity)) u with
    ⟨e | response, u'⟩ <;>
    rcases hv : world.run (handleErrors (route.view config lower request identity)) v with
      ⟨e' | response', v'⟩ <;>
    rw [World.run] at hu hv <;> rw [hu, hv] at hresponse hnext <;> cases hresponse
  · rw [World.run_bind_error hu, World.run_bind_error hv]
    have hsilent (w : AppState) : EmitsFor identity.tenant w w := emitsFor_nothing _ w w.tick
    exact ⟨rfl, hnext.agree, hnext.left, hnext.right, (hsilent u').of_silent hnext.leftSilent,
      (hsilent v').of_silent hnext.rightSilent⟩
  · rw [World.run_bind_ok hu, World.run_bind_ok hv]
    obtain ⟨sent, recorded, tick, hmeter, hemits⟩ :=
      @run_meterUsage world config request identity response u'
    obtain ⟨sent', recorded', tick', hmeter', hemits'⟩ :=
      @run_meterUsage world config request identity response v'
    have hagree := (@meterUsage_alike world config request identity response identity.tenant u' v'
      hnext.agree).2
    rw [World.run] at hmeter hmeter'
    rw [hmeter, hmeter'] at hagree
    rw [World.run_bind_ok hmeter, World.run_bind_ok hmeter']
    exact ⟨rfl, hagree, hnext.left.handOver _ _ _, hnext.right.handOver _ _ _,
      hemits.of_silent hnext.leftSilent, hemits'.of_silent hnext.rightSilent⟩

/-- A denial is no entry. -/
theorem run_deny_ne {p : App Response} {u : AppState} :
    world.run (Gate.deny <$> p) s ≠ (.ok (.enter identity), u) := by
  intro h
  rw [map_eq_pure_bind] at h
  obtain ⟨response, t, -, hret⟩ := World.run_bind_eq_ok.mp h
  cases hret

theorem run_deny_bind_ne {p : App Unit} {response : Response} {u : AppState} :
    world.run (p >>= fun _ => pure (Gate.deny response)) s ≠ (.ok (.enter identity), u) := by
  intro h
  obtain ⟨_, t, -, hret⟩ := World.run_bind_eq_ok.mp h
  cases hret

theorem resolveIdentity_of_admin {u : AppState}
    (h : world.run (adminRequired config request) s = (.ok (.enter identity), u)) :
    (world.run (resolveIdentity config request) s).1 = .ok (some identity) := by
  obtain ⟨resolved, t, hresolve, hgate⟩ := World.run_bind_eq_ok.mp h
  rw [hresolve]
  cases resolved with
  | none => exact absurd hgate run_deny_ne
  | some i =>
    simp only at hgate
    split at hgate
    · split at hgate
      · cases hgate
      · exact absurd hgate run_deny_bind_ne
    · cases hgate
      rfl

theorem resolveIdentity_of_login {u : AppState}
    (h : world.run (loginRequired config request) s = (.ok (.enter identity), u)) :
    (world.run (resolveIdentity config request) s).1 = .ok (some identity) := by
  obtain ⟨resolved, t, hresolve, hgate⟩ := World.run_bind_eq_ok.mp h
  rw [hresolve]
  cases resolved with
  | none => exact absurd hgate run_deny_ne
  | some i =>
    obtain ⟨session, t', -, hgate⟩ := World.run_bind_eq_ok.mp hgate
    split at hgate
    · obtain ⟨refreshed, t'', -, hgate⟩ := World.run_bind_eq_ok.mp hgate
      split at hgate
      · cases hgate
        rfl
      · exact absurd hgate run_deny_bind_ne
    · cases hgate
      rfl

/-- The identity a guard enters with is the one that was resolved. -/
theorem resolveIdentity_of_guard {u : AppState}
    (h : world.run (route.guard config request) s = (.ok (.enter identity), u)) :
    (world.run (resolveIdentity config request) s).1 = .ok (some identity) := by
  unfold Route.guard at h
  split at h
  · exact resolveIdentity_of_admin h
  · exact resolveIdentity_of_login h

end Requests

/-- Two requests admitted with the same identity, in states that agree for its tenant, get the
same response and leave states that agree for the tenant; each leaves what belongs to other
tenants, and emits at most one event, which names the tenant. -/
theorem noninterference (config : Config) (world : World) (lower : String → String)
    (request : Request) (route : Route) (identity : Identity) {s t : AppState}
    (hadmitted : (world.run (route.guard config request) s).1 = .ok (.enter identity))
    (hagree : AgreeFor identity.tenant s t) :
    (world.run (resolveIdentity config request) s).1 = .ok (some identity) ∧
      Noninterfering identity.tenant s t (world.run (serve config lower request route) s)
        (world.run (serve config lower request route) t) := by
  rcases hguard : world.run (route.guard config request) s with ⟨e | gate, u⟩
  · rw [hguard] at hadmitted
    cases hadmitted
  rw [hguard] at hadmitted
  obtain rfl : gate = .enter identity := Except.ok.inj hadmitted
  have hstart : Isolated identity.tenant s t s t :=
    ⟨hagree, .refl _ s, .refl _ t, ⟨rfl, rfl⟩, ⟨rfl, rfl⟩⟩
  obtain ⟨hgate, hentered⟩ := guard_within route world s t s t hstart
  rw [show Prog.run _ _ s = _ from hguard] at hgate hentered
  rcases hguard' : world.run (route.guard config request) t with ⟨gate', v⟩
  rw [show Prog.run _ _ t = _ from hguard'] at hgate hentered
  subst hgate
  refine ⟨resolveIdentity_of_guard hguard, ?_⟩
  unfold serve
  rw [World.run_bind_ok (World.run_tryCatch_ok hguard),
    World.run_bind_ok (World.run_tryCatch_ok hguard')]
  exact serveAs_noninterfering hentered

/-! ## Two states that differ in TenantB -/

/-- A user of TenantB. -/
def beth : UserRow := UserRow.withDefaults "u-7" "beth" "beth@b.example" "user"

/-- The administrator of TenantA is signed in; the table of TenantB holds `rows`. -/
def besideTenantB (rows : Table) : AppState :=
  { emptyState with
    rds :=
      { committed := Rds.setTable (fun _ => []) .tenantB rows
        working := fun _ => [] }
    session := { Session.cleared with identity := some sampleAdmin } }

theorem besideTenantB_agree (rows rows' : Table) :
    AgreeFor "TenantA" (besideTenantB rows) (besideTenantB rows') where
  tick := rfl
  session := rfl
  table := by
    rintro table ⟨⟩
    rfl
  demoDb := rfl
  partition := rfl
  pool _ := rfl
  demoPool _ := rfl

/-- The list of the users of the tenant. -/
def listRequest : Request where
  method := "GET"
  path := "/api/v1/admin/users"
  headers _ := none
  cookies _ := none
  args _ := none
  form _ := none

theorem manageUsers_ignores_tenantB :
    (quietWorld.run (serve sampleConfig id listRequest .manageUsersPage) (besideTenantB [])).1 =
      (quietWorld.run (serve sampleConfig id listRequest .manageUsersPage)
        (besideTenantB [beth])).1 :=
  (noninterference sampleConfig quietWorld id listRequest .manageUsersPage sampleAdmin rfl
    (besideTenantB_agree [] [beth])).2.response

end TenantSaas
