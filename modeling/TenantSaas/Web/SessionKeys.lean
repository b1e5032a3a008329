import TenantSaas.Misc.CookieJar
import TenantSaas.Web.AuthorizedViews

/-!
# What the views leave of the session

Every request has a session of its own, which only the request itself changes; everything else
it asks may be answered in any way.  The views change the identity in it and the messages.
-/

namespace TenantSaas

/-- The answers a request may get, with what becomes of its session. -/
def sessionEnv : Prog.Env AppOp.Res PyError Session := fun s op r t =>
  match op with
  | .session => r = .ok s ∧ t = s
  | .setSession new => r = .ok () ∧ t = new
  | _ => t = s

/-- The calls of a request so far, as they were answered. -/
abbrev Calls := CookieJar.CallLog AppOp.Res PyError

/-- The world answers in one of these ways. -/
theorem exec_sessionEnv (world : World) (s : AppState) (op : AppOp) :
    sessionEnv s.session op (world.exec s op).1 (world.exec s op).2.session := by
  cases hop : op.changesSession with
  | false =>
    have hsession : (world.exec s op).2.session = s.session := @exec_part world op .session hop s
    cases op with
    | session => exact ⟨rfl, rfl⟩
    | setSession new => cases hop
    | _ => exact hsession
  | true =>
    cases op with
    | setSession new => exact ⟨rfl, rfl⟩
    | _ => cases hop

theorem sessionEnv_keeps {op : AppOp} (h : op.changesSession = false) {s t : Session}
    {r : Except PyError op.Res} (hstep : sessionEnv s op r t) : t = s := by
  cases op with
  | session => exact hstep.2
  | setSession new => cases h
  | _ => exact hstep

/-- A call that leaves the session and is none of an OAuth flow's. -/
def AppOp.leavesSession (op : AppOp) : Bool := !op.changesSession && !op.signsIn

/-- The program makes no call of an OAuth flow and moves its session by `R`. -/
abbrev MovesSession (R : Session → Session → Prop) {α : Type} (p : App α) : Prop :=
  Prog.Moves sessionEnv (fun op => op.signsIn = false) R p

section Moves

variable {R : Session → Session → Prop} {α β : Type}

theorem movesSession_of_calls (refl : ∀ s, R s s) (trans : ∀ s t u, R s t → R t u → R s u)
    {p : App α} (hp : p.Calls fun op => op.leavesSession = true) : MovesSession R p := by
  refine Prog.Moves.of_calls refl trans ?_ ?_ hp
  · intro op s r t hop hstep
    simp only [AppOp.leavesSession, Bool.and_eq_true, Bool.not_eq_true'] at hop
    rw [sessionEnv_keeps hop.1 hstep]
    exact ⟨hop.2, refl s⟩
  · intro op hop
    simp only [AppOp.leavesSession, Bool.and_eq_true, Bool.not_eq_true'] at hop
    exact hop.2

/-- Reading the session first. -/
theorem movesSession_read {f : Session → App α}
    (h : ∀ s, (f s).Always sessionEnv (fun _ op => op.signsIn = false) (fun _ t => R s t) s) :
    MovesSession R ((perform .session).bind f) := by
  intro s
  refine ⟨rfl, fun r t hrt => ?_⟩
  obtain ⟨rfl, rfl⟩ := hrt
  exact h t

/-- Writing the session, and going on. -/
theorem always_write (trans : ∀ s t u, R s t → R t u → R s u) {s new : Session} (hnew : R s new)
    {next : Unit → App α} (hnext : MovesSession R (next ())) :
    ((perform (.setSession new)).bind next).Always sessionEnv (fun _ op => op.signsIn = false)
      (fun _ t => R s t) s := by
  refine ⟨rfl, fun r t hrt => ?_⟩
  obtain ⟨rfl, rfl⟩ := hrt
  exact Prog.Moves.after trans hnew hnext

/-- What a program does to any session it does to that of a run. -/
theorem run_movesSession {p : App α} (hp : MovesSession R p) (world : World) (s : AppState) :
    R s.session (world.run p s).2.session := by
  have hexec : p.Always (fun s op r t => world.exec s op = (r, t)) (fun _ op => op.signsIn = false)
      (fun _ t => R s.session t.session) s := by
    refine (hp s.session).simulate AppState.session fun t op r t' hstep => ?_
    have henv := exec_sessionEnv world t op
    rwa [hstep] at henv
  exact hexec.run fun _ _ => rfl

end Moves

/-! ## The views -/

/-- The program leaves the session as it was, up to the identity and the messages. -/
abbrev KeepsKeys {α : Type} (p : App α) : Prop := MovesSession Session.SameKeys p

theorem sameKeys_trans : ∀ s t u : Session, s.SameKeys t → t.SameKeys u → s.SameKeys u :=
  fun _ _ _ => Session.SameKeys.trans

theorem keepsKeys_of_calls {α : Type} {p : App α} (hp : p.Calls fun op => op.leavesSession = true) :
    KeepsKeys p := movesSession_of_calls .refl sameKeys_trans hp

theorem inside_leavesSession {tenant : String} {op : AppOp} (h : op.Inside tenant) :
    op.leavesSession = true := by
  cases op <;> first | rfl | cases h

theorem keepsKeys_closed (tenant : String) : Closed tenant KeepsKeys where
  ret := Prog.Moves.ret .refl
  raise := Prog.Moves.raise .refl
  bind := Prog.Moves.bind sameKeys_trans
  handle := Prog.Moves.handle sameKeys_trans
  perform {op} hop := by
    apply keepsKeys_of_calls
    apply perform_calls
    rw [AppOp.leavesSession, hop.keepsSession, hop.noSignIn]
    rfl
  connection {_ body} hbody := by
    apply keepsKeys_of_calls
    refine Prog.Calls.bind (perform_calls (by rfl)) fun _ => ?_
    exact Prog.Calls.finally' (hbody.mono fun _ => inside_leavesSession) (perform_calls (by rfl))
  session {_ f} h := by
    refine movesSession_read fun s => ?_
    have hs := h s
    generalize f s = p at hs ⊢
    cases hs with
    | leaves hp => exact hp s
    | writes new next keys hnext => exact always_write sameKeys_trans keys (hnext ())

theorem view_keepsKeys (config : Config) (lower : String → String) (request : Request)
    (identity : Identity) (route : Route) :
    KeepsKeys (route.view config lower request identity) :=
  view_closed (keepsKeys_closed identity.tenant) lower route

/-- A view with the error handler and the metering around it. -/
theorem serveAs_keepsKeys (config : Config) (lower : String → String) (request : Request)
    (route : Route) (identity : Identity) :
    KeepsKeys (serveAs config lower request route identity) := by
  have hC := keepsKeys_closed identity.tenant
  refine hC.bind (hC.handle (view_keepsKeys config lower request identity route)
    fun _ => hC.ret _) fun response => ?_
  refine hC.bind (keepsKeys_of_calls ?_) fun _ => hC.ret _
  exact recordApiUsage_calls config identity _ _ _ _ (by rfl) (by rfl) fun _ _ => ⟨by rfl, by rfl⟩

/-! ## The guards -/

theorem resolveIdentity_leaves (config : Config) (request : Request) :
    (resolveIdentity config request).Calls fun op => op.leavesSession = true := by
  apply (resolveIdentity_calls config request).mono
  intro op hop
  cases op <;> first | rfl | cases hop

theorem resolveIdentity_keepsKeys (config : Config) (request : Request) :
    KeepsKeys (resolveIdentity config request) :=
  keepsKeys_of_calls (resolveIdentity_leaves config request)

theorem flash_keepsKeys (message category : String) : KeepsKeys (flash message category) :=
  flash_closed (keepsKeys_closed "") message category

theorem unauthenticatedResponse_keepsKeys (config : Config) (request : Request) :
    KeepsKeys (unauthenticatedResponse config request) := by
  have hC := keepsKeys_closed ""
  unfold unauthenticatedResponse
  split
  · exact hC.ret _
  · exact hC.bind (flash_keepsKeys _ _) fun _ => hC.ret _

theorem adminRequired_keepsKeys (config : Config) (request : Request) :
    KeepsKeys (adminRequired config request) := by
  have hC := keepsKeys_closed ""
  refine hC.bind (resolveIdentity_keepsKeys config request) fun identity => ?_
  cases identity with
  | none => exact hC.bind (unauthenticatedResponse_keepsKeys config request) fun _ => hC.ret _
  | some identity =>
    show KeepsKeys (if _ then _ else _)
    split
    · split
      · exact hC.ret _
      · exact hC.bind (flash_keepsKeys _ _) fun _ => hC.ret _
    · exact hC.ret _

theorem refreshTokens_calls {P : AppOp → Prop} (refreshToken : Json)
    (request : P (.tokenRequest refreshToken)) : (refreshTokens refreshToken).Calls P := by
  refine Prog.Calls.bind (Prog.Calls.bind (perform_calls request) fun reply => ?_) fun body => ?_
  · cases reply with
    | unreachable => trivial
    | http status body =>
      show Prog.Calls _ (if _ then _ else _)
      split
      · exact Prog.Calls.ofExcept _
      · trivial
  · refine Prog.Calls.bind (Prog.Calls.ofExcept _) fun idToken => ?_
    refine Prog.Calls.bind (Prog.Calls.ofExcept _) fun accessToken => ?_
    refine Prog.Calls.bind (Prog.Calls.ofExcept _) fun expiresIn => ?_
    exact Prog.Calls.bind (Prog.Calls.ofExcept _) fun tokenType => trivial

theorem refreshTokens_leaves (refreshToken : Json) :
    (refreshTokens refreshToken).Calls fun op => op.leavesSession = true :=
  refreshTokens_calls refreshToken (by rfl)

/-- A relation that admits what the guards do to a session: messages, refreshed tokens, and
clearing it. -/
structure GuardMoves (R : Session → Session → Prop) : Prop where
  refl : ∀ s, R s s
  trans : ∀ s t u, R s t → R t u → R s u
  messages : ∀ s flashes, R s { s with flashes := flashes }
  tokens : ∀ (s : Session) accessToken tokenExpiresAt, R s { s with
    accessToken := accessToken
    tokenExpiresAt := tokenExpiresAt }
  cleared : ∀ s, R s .cleared

section LoginRequired

variable {R : Session → Session → Prop} (hR : GuardMoves R) {α β : Type}

include hR

theorem GuardMoves.ret (a : α) : MovesSession R (.ret a : App α) := Prog.Moves.ret hR.refl a

theorem GuardMoves.bind {p : App α} {f : α → App β} (hp : MovesSession R p)
    (hf : ∀ a, MovesSession R (f a)) : MovesSession R (p.bind f) :=
  Prog.Moves.bind hR.trans hp hf

theorem GuardMoves.of_calls {p : App α} (hp : p.Calls fun op => op.leavesSession = true) :
    MovesSession R p := movesSession_of_calls hR.refl hR.trans hp

/-- Clearing the session and going on. -/
theorem GuardMoves.clear {next : Unit → App α} (hnext : MovesSession R (next ())) :
    MovesSession R ((perform (.setSession .cleared)).bind next) :=
  fun s => always_write hR.trans (hR.cleared s) hnext

theorem flash_moves (message category : String) : MovesSession R (flash message category) := by
  refine movesSession_read fun s => ?_
  rw [← Prog.bind_ret (perform (.setSession _))]
  exact always_write hR.trans (hR.messages s _) (hR.ret _)

theorem refreshSessionTokens_moves (refreshToken : Json) :
    MovesSession R (refreshSessionTokens refreshToken) := by
  refine Prog.Moves.handle hR.trans ?_ fun e => ?_
  · refine hR.bind (hR.of_calls (refreshTokens_leaves _)) fun newTokens => ?_
    refine movesSession_read fun s => always_write hR.trans (hR.tokens s _ s.tokenExpiresAt) ?_
    refine hR.bind (hR.of_calls (perform_calls (by rfl))) fun now => ?_
    refine hR.bind (Prog.Moves.ofExcept hR.refl _) fun expiresIn => ?_
    exact movesSession_read fun s => always_write hR.trans (hR.tokens s s.accessToken _) (hR.ret _)
  · cases e <;> first
      | exact Prog.Moves.raise hR.refl _
      | exact hR.clear (hR.ret _)

theorem refreshSessionTokensIfNeeded_moves : MovesSession R refreshSessionTokensIfNeeded := by
  refine hR.bind (hR.of_calls (perform_calls (by rfl))) fun session => ?_
  cases session.tokenExpiresAt with
  | none => exact hR.ret _
  | some expiresAt =>
    show MovesSession _ (if _ then _ else _)
    split
    · exact hR.ret _
    refine hR.bind (hR.of_calls (perform_calls (by rfl))) fun now => ?_
    split
    · exact hR.ret _
    split
    · exact hR.clear (hR.ret _)
    · exact refreshSessionTokens_moves hR _

theorem loginRequired_moves (config : Config) (request : Request) :
    MovesSession R (loginRequired config request) := by
  refine hR.bind (hR.of_calls (resolveIdentity_leaves config request)) fun identity => ?_
  cases identity with
  | none =>
    refine hR.bind ?_ fun _ => hR.ret _
    unfold unauthenticatedResponse
    split
    · exact hR.ret _
    · exact hR.bind (flash_moves hR _ _) fun _ => hR.ret _
  | some identity =>
    refine hR.bind (hR.of_calls (perform_calls (by rfl))) fun session => ?_
    split
    · refine hR.bind (refreshSessionTokensIfNeeded_moves hR) fun refreshed => ?_
      split
      · exact hR.ret _
      · exact hR.bind (flash_moves hR _ _) fun _ => hR.ret _
    · exact hR.ret _

end LoginRequired

/-- What follows a guard leaves the session, whatever the guard decided. -/
theorem serve_rest_keepsKeys (config : Config) (lower : String → String) (request : Request)
    (route : Route) (gate : Gate) :
    KeepsKeys (match gate with
      | .deny response => do
        meterUsage config request none response
        pure response
      | .enter identity => serveAs config lower request route identity) := by
  have hC := keepsKeys_closed ""
  cases gate with
  | deny response =>
    refine hC.bind ?_ fun _ => hC.ret _
    unfold meterUsage recordApiUsage
    split <;> exact hC.ret _
  | enter identity => exact serveAs_keepsKeys config lower request route identity

/-- A guarded request leaves of the session what its guard leaves. -/
theorem run_serve_sameKeys (config : Config) (world : World) (lower : String → String)
    (request : Request) (route : Route) (s : AppState) :
    (world.run (route.guard config request) s).2.session.SameKeys
      (world.run (serve config lower request route) s).2.session := by
  unfold serve
  rcases hguard : world.run (route.guard config request) s with ⟨e | gate, t⟩
  · rw [World.run_bind_ok (World.run_tryCatch_error hguard)]
    exact run_movesSession (serve_rest_keepsKeys config lower request route (.deny _)) world t
  · rw [World.run_bind_ok (World.run_tryCatch_ok hguard)]
    exact run_movesSession (serve_rest_keepsKeys config lower request route gate) world t

/-- A request the guard denies is over. -/
theorem run_serve_deny {config : Config} {world : World} {lower : String → String}
    {request : Request} {route : Route} {response : Response} {s t : AppState}
    (h : world.run (route.guard config request) s = (.ok (.deny response), t)) :
    world.run (serve config lower request route) s = (.ok response, t) := by
  unfold serve
  rw [World.run_bind_ok (World.run_tryCatch_ok h)]
  simp only [meterUsage, recordApiUsage]
  split <;> rfl

end TenantSaas
