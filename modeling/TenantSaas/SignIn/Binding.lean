import TenantSaas.SignIn.Callback
import TenantSaas.Web.SessionKeys

/-!
# The state and the verifier of a sign-in

One browser sends requests to the sign-in pages and to guarded views, some of them callbacks an
attacker made it send, served at the same time.  The session is the state in its cookie.
-/

namespace TenantSaas

open CookieJar (Origins recorded)

/-- What a browser asks for. -/
inductive Errand where
  | loginRedirect
  | callback (request : Request)
  | logout
  | guarded (lower : String → String) (request : Request) (route : Route)

def Errand.prog (config : Config) : Errand → App Unit
  | loginRedirect => do let _ ← AuthPages.loginRedirect config
  | callback request => do let _ ← AuthPages.callback config request
  | logout => do let _ ← AuthPages.logout config
  | guarded lower request route => do let _ ← serve config lower request route

/-- A request of the browser. -/
abbrev Visit := CookieJar.Visit AppOp.Res PyError Session Errand

/-- A `login_redirect` that drew a state and a verifier. -/
structure Visit.Issued (visit : Visit) (state verifier : String) : Prop where
  errand : visit.request = .loginRedirect
  state : ⟨.generateState, .ok state⟩ ∈ visit.calls
  verifier : ∃ challenge, ⟨.generatePkcePair, .ok (verifier, challenge)⟩ ∈ visit.calls

/-- A browser, with its requests under the names of `ι`. -/
abbrev Browser (ι : Type) := CookieJar.Jar AppOp.Res PyError Session Errand ι

namespace Browser

variable {ι : Type}

/-- Request `i` is a `login_redirect` that drew this state and this verifier. -/
def Issued (browser : Browser ι) (i : ι) (state verifier : String) : Prop :=
  ∃ visit : Visit, browser.visits i = some visit ∧ visit.Issued state verifier

/-- No state and no verifier, or both of one `login_redirect`. -/
def Paired (browser : Browser ι) (session : Session) : Prop :=
  session.oauthState = none ∧ session.oauthCodeVerifier = none ∨
    ∃ i state verifier, session.oauthState = some state ∧
      session.oauthCodeVerifier = some verifier ∧ browser.Issued i state verifier

/-- `generate_state` never repeats. -/
def NeverRepeats (browser : Browser ι) : Prop :=
  ∀ i j visit visit' state, browser.visits i = some visit → browser.visits j = some visit' →
    ⟨.generateState, .ok state⟩ ∈ visit.calls → ⟨.generateState, .ok state⟩ ∈ visit'.calls → i = j

/-- The browser starts without cookie. -/
abbrev Run [DecidableEq ι] (config : Config) : Browser ι → Prop :=
  CookieJar.Run sessionEnv (Errand.prog config) .cleared

/-- Sign-ins are bound to the browser. -/
structure Bound (browser : Browser ι) : Prop where
  paired : ∀ session, browser.Holds session → browser.Paired session
  /-- A code is exchanged only where the state of the request is that of its cookie, with the
  verifier of the one `login_redirect` that drew the state. -/
  exchanged : ∀ i visit code verifier answer, browser.visits i = some visit →
    ⟨.exchangeCode code verifier, answer⟩ ∈ visit.calls →
      ∃ request state, visit.request = .callback request ∧ request.args "state" = some state ∧
        visit.carried.oauthState = some state ∧
        ∃ j v, verifier = some v ∧ browser.Issued j state v ∧
          ∀ k v', browser.Issued k state v' → k = j
  /-- A callback writes a login to its session only if it carries a state of this browser. -/
  started : ∀ i visit request new answer, browser.visits i = some visit →
    visit.request = .callback request → ⟨.setSession new, answer⟩ ∈ visit.calls →
      ¬ visit.carried.SameLogin new →
        ∃ j state v, request.args "state" = some state ∧ browser.Issued j state v

end Browser

/-! ## One request -/

/-- What an errand may ask for at a point of its run. -/
def Errand.Permits (errand : Errand) (carried : Session) (calls : Calls) : AppOp → Prop
  | .exchangeCode code verifier => ∃ request, errand = .callback request ∧
    AuthPages.verifiedCode request carried = some (code, verifier)
  | .setSession new => ∀ request, errand = .callback request → carried.SameLogin new ∨
    ∃ code verifier answer, ⟨.exchangeCode code verifier, answer⟩ ∈ calls
  | _ => True

/-- Neither state nor verifier. -/
def Session.Unbound (session : Session) : Prop :=
  session.oauthState = none ∧ session.oauthCodeVerifier = none

/-- The state and the verifier are those of before, or gone. -/
def Session.KeepsBinding (s t : Session) : Prop :=
  t.oauthState = s.oauthState ∧ t.oauthCodeVerifier = s.oauthCodeVerifier ∨ t.Unbound

/-! ## What guarded requests leave of the binding -/

section Guarded

variable {config : Config}

theorem keepsBinding_refl (s : Session) : s.KeepsBinding s := .inl ⟨rfl, rfl⟩

theorem keepsBinding_trans (s t u : Session) (hst : s.KeepsBinding t) (htu : t.KeepsBinding u) :
    s.KeepsBinding u := by
  rcases htu with ⟨hstate, hverifier⟩ | hunbound
  · rcases hst with ⟨hstate', hverifier'⟩ | ⟨hstate', hverifier'⟩
    · exact .inl ⟨hstate.trans hstate', hverifier.trans hverifier'⟩
    · exact .inr ⟨hstate.trans hstate', hverifier.trans hverifier'⟩
  · exact .inr hunbound

theorem keepsBinding_of_sameKeys {s t : Session} (h : s.SameKeys t) : s.KeepsBinding t := by
  left
  rw [h.keys]
  exact ⟨rfl, rfl⟩

theorem keepsBinding_guard : GuardMoves Session.KeepsBinding where
  refl := keepsBinding_refl
  trans := keepsBinding_trans
  messages _ _ := .inl ⟨rfl, rfl⟩
  tokens _ _ _ := .inl ⟨rfl, rfl⟩
  cleared _ := .inr ⟨rfl, rfl⟩

theorem bindingOf_keepsKeys {α : Type} {p : App α} (hp : KeepsKeys p) :
    MovesSession Session.KeepsBinding p :=
  fun s => (hp s).mono (fun _ _ h => h) fun _ _ h => keepsBinding_of_sameKeys h

/-- A guarded request keeps the binding, or clears the session. -/
theorem serve_keepsBinding (lower : String → String) (request : Request) (route : Route) :
    MovesSession Session.KeepsBinding (serve config lower request route) := by
  have hguard : MovesSession Session.KeepsBinding (route.guard config request) := by
    unfold Route.guard
    split
    · exact bindingOf_keepsKeys (adminRequired_keepsKeys config request)
    · exact loginRequired_moves keepsBinding_guard config request
  refine keepsBinding_guard.bind (Prog.Moves.handle keepsBinding_trans hguard
    fun _ => keepsBinding_guard.ret _) fun gate => ?_
  exact bindingOf_keepsKeys (serve_rest_keepsKeys config lower request route gate)

end Guarded

/-- A `login_redirect` has drawn the state and the verifier of the session. -/
def Drawn (errand : Errand) (calls : Calls) (session : Session) : Prop :=
  errand = .loginRedirect ∧ ∃ state verifier challenge, session.oauthState = some state ∧
    session.oauthCodeVerifier = some verifier ∧ ⟨.generateState, .ok state⟩ ∈ calls ∧
    ⟨.generatePkcePair, .ok (verifier, challenge)⟩ ∈ calls

/-- Where states and verifiers come from. -/
def bindingOrigins : Origins Errand AppOp.Res PyError Session where
  Comes := Session.KeepsBinding
  Made := Drawn
  refl := keepsBinding_refl
  trans := keepsBinding_trans
  grows := by
    rintro errand calls call session ⟨herrand, state, verifier, challenge, hstate, hverifier,
      hdrawn, hpair⟩
    exact ⟨herrand, state, verifier, challenge, hstate, hverifier,
      List.mem_append_left _ hdrawn, List.mem_append_left _ hpair⟩

/-- The program keeps to the errand from here on. -/
def Errand.Keeps (errand : Errand) (carried : Session) {α : Type} (p : App α)
    (s : Session × Calls) : Prop :=
  p.Always (recorded sessionEnv) (fun t op => errand.Permits carried t.2 op)
    (fun _ t => bindingOrigins.Leaves errand carried t) s

/-! ## What the sign-in pages leave of it -/

section Errands

variable {config : Config} {errand : Errand} {carried : Session} {calls : Calls} {α : Type}

theorem Errand.Keeps.discard {p : App α} {s : Session × Calls} (h : errand.Keeps carried p s) :
    errand.Keeps carried (do let _ ← p) s := by
  refine Prog.Always.bind (h.mono (fun _ _ hop => hop) fun r t ht => ?_)
  cases r <;> exact ht

/-- A program that makes no call of an OAuth flow, in an errand that is no callback. -/
theorem keeps_of_movesSession {p : App α} (hp : MovesSession Session.KeepsBinding p)
    (herrand : ∀ request, errand ≠ .callback request) :
    errand.Keeps carried p (carried, calls) := by
  refine (CookieJar.always_recorded (hp carried)).mono (fun t op hop => ?_)
    fun _ t ht => .inl ht.1
  obtain ⟨hop, -⟩ := hop
  cases op <;> first | trivial | cases hop
  intro request hcallback
  exact absurd hcallback (herrand request)

theorem logout_keeps : Errand.logout.Keeps carried (AuthPages.logout config) (carried, []) := by
  refine keeps_of_movesSession (keepsBinding_guard.clear ?_) (by rintro request ⟨⟩)
  split
  · exact keepsBinding_guard.bind (flash_moves keepsBinding_guard _ _)
      fun _ => keepsBinding_guard.ret _
  · exact keepsBinding_guard.ret _

theorem loginRedirect_keeps :
    Errand.loginRedirect.Keeps carried (AuthPages.loginRedirect config) (carried, []) := by
  have hflash : ∀ message category, Errand.loginRedirect.Keeps carried
      ((flash message category).bind fun _ => .ret AuthPages.toLogin) (carried, []) := by
    intro message category
    apply keeps_of_movesSession
    · exact keepsBinding_guard.bind (flash_moves keepsBinding_guard _ _)
        fun _ => keepsBinding_guard.ret _
    · rintro request ⟨⟩
  unfold AuthPages.loginRedirect
  split
  · exact hflash _ _
  split
  · exact hflash _ _
  refine ⟨trivial, fun pair t ⟨hsession, hcalls⟩ => ?_⟩
  obtain rfl : t.1 = carried := hsession
  cases pair with
  | error e => exact .inl (keepsBinding_refl _)
  | ok pair =>
    obtain ⟨codeVerifier, codeChallenge⟩ := pair
    refine ⟨trivial, fun state u ⟨hsession', hcalls'⟩ => ?_⟩
    cases state with
    | error e =>
      left
      rw [show u.1 = t.1 from hsession']
      exact keepsBinding_refl _
    | ok state =>
      refine ⟨trivial, fun read v ⟨⟨hread, hv⟩, hcalls₁⟩ => ?_⟩
      subst hread
      refine ⟨by rintro request ⟨⟩, fun _ w ⟨⟨hwrite, hw⟩, hcalls₂⟩ => ?_⟩
      subst hwrite
      refine ⟨trivial, fun read x ⟨⟨hread, hx⟩, hcalls₃⟩ => ?_⟩
      subst hread
      refine ⟨by rintro request ⟨⟩, fun _ y ⟨⟨hwrite, hy⟩, hcalls₄⟩ => ?_⟩
      subst hwrite
      refine .inr ⟨y.1, ⟨rfl, state, codeVerifier, codeChallenge, ?_, ?_, ?_, ?_⟩,
        keepsBinding_refl _⟩
      · rw [hy, hw]
      · rw [hy]
      · simp [hcalls₄, hcalls₃, hcalls₂, hcalls₁, hcalls']
      · simp [hcalls₄, hcalls₃, hcalls₂, hcalls₁, hcalls', hcalls]

/-- A callback that turns back writes a message to the session it has. -/
theorem turnBack_keeps {request : Request} (message category : String) {s : Session × Calls}
    (hlogin : carried.SameLogin s.1) (hbinding : carried.KeepsBinding s.1) :
    (Errand.callback request).Keeps carried
      ((flash message category).bind fun _ => .ret AuthPages.toLogin) s := by
  refine ⟨trivial, fun read t ⟨⟨hread, ht⟩, _⟩ => ?_⟩
  subst hread
  refine ⟨fun _ _ => .inl ?_, fun write u ⟨⟨hwrite, hu⟩, _⟩ => ?_⟩
  · rw [Session.SameLogin, hlogin]
  · subst hwrite
    left
    rw [hu]
    exact hbinding

/-- Once neither state nor verifier is there, they stay away. -/
def Session.StaysUnbound (s t : Session) : Prop := s.Unbound → t.Unbound

theorem staysUnbound_guard : GuardMoves Session.StaysUnbound where
  refl _ := id
  trans _ _ _ hst htu := htu ∘ hst
  messages _ _ := id
  tokens _ _ _ := id
  cleared _ _ := ⟨rfl, rfl⟩

/-- The part of the `try` block after the tokens are there. -/
theorem establish_staysUnbound (tokens : CodeTokens) (identity : Identity) :
    MovesSession Session.StaysUnbound (AuthPages.establish tokens identity) := by
  have hG := staysUnbound_guard
  refine hG.bind ?_ fun _ => ?_
  · intro s
    refine always_write hG.trans (fun _ => ⟨rfl, rfl⟩) ?_
    refine movesSession_read fun s => always_write hG.trans (fun hs => hs) ?_
    refine hG.bind (hG.of_calls (perform_calls (by rfl))) fun now => ?_
    refine hG.bind (Prog.Moves.ofExcept hG.refl _) fun expiresIn => ?_
    refine movesSession_read fun s => ?_
    rw [← Prog.bind_ret (perform (.setSession _))]
    exact always_write hG.trans (fun hs => hs) (hG.ret _)
  · unfold AuthPages.setCognitoAccessTokenCookie
    split
    · exact hG.ret _
    · refine hG.bind (Prog.Moves.ofExcept hG.refl _) fun maxAge => ?_
      refine hG.bind (hG.of_calls (perform_calls (by rfl))) fun _ => ?_
      exact hG.ret _

theorem signInFailed_staysUnbound (e : PyError) :
    MovesSession Session.StaysUnbound (AuthPages.signInFailed e) := by
  cases e <;>
    exact staysUnbound_guard.bind (flash_moves staysUnbound_guard _ _)
      fun _ => staysUnbound_guard.ret _

/-- A callback exchanges the code under the state and the verifier it carried, and writes a login
after that only. -/
theorem callback_keeps (request : Request) :
    (Errand.callback request).Keeps carried (AuthPages.callback config request) (carried, []) := by
  unfold AuthPages.callback
  split
  · exact turnBack_keeps _ _ rfl (keepsBinding_refl _)
  refine ⟨trivial, fun read t hread => ?_⟩
  obtain ⟨⟨rfl, ht⟩, hcalls₁⟩ := hread
  refine ⟨fun _ _ => .inl rfl, fun write u hwrite => ?_⟩
  obtain ⟨⟨rfl, hu⟩, hcalls₂⟩ := hwrite
  have hunbound : u.1.Unbound := by
    rw [hu]
    exact ⟨rfl, rfl⟩
  simp only [Prog.bind_def, Prog.ret_bind]
  cases hverified : AuthPages.verifiedCode request carried with
  | none =>
    refine turnBack_keeps _ _ ?_ (.inr hunbound)
    rw [Session.SameLogin, hu]
  | some verified =>
    obtain ⟨code, codeVerifier⟩ := verified
    obtain ⟨rest, hrest, hleaves⟩ := authenticate_eq config code codeVerifier
    simp only [hrest]
    refine ⟨⟨request, rfl, hverified⟩, fun reply v hreply => ?_⟩
    obtain ⟨hsession, hcalls₃⟩ := hreply
    have hsame : v.1 = u.1 := hsession
    have hcall : ⟨.exchangeCode code codeVerifier, reply⟩ ∈ v.2 := by
      rw [hcalls₃]
      exact List.mem_append_right _ (List.mem_singleton_self _)
    have hG := staysUnbound_guard
    have hrest : MovesSession Session.StaysUnbound _ := Prog.Moves.handle hG.trans
      (hG.bind (hG.of_calls (hleaves reply)) fun result =>
        establish_staysUnbound result.1 result.2) signInFailed_staysUnbound
    refine (CookieJar.always_recorded (hrest v.1)).mono (fun w op hop => ?_) fun _ w hw => ?_
    · obtain ⟨hop, hgrown⟩ := hop
      cases op <;> first | trivial | cases hop
      exact fun _ _ => .inr ⟨code, codeVerifier, reply, hgrown hcall⟩
    · exact .inl (.inr (hw.1 (hsame ▸ hunbound)))

theorem prog_keeps (config : Config) (errand : Errand) (cookie : Session) :
    errand.Keeps cookie (errand.prog config) (cookie, []) := by
  cases errand with
  | loginRedirect => exact loginRedirect_keeps.discard
  | callback request => exact (callback_keeps request).discard
  | logout => exact logout_keeps.discard
  | guarded lower request route =>
    apply Errand.Keeps.discard
    apply keeps_of_movesSession (serve_keepsBinding lower request route)
    rintro request ⟨⟩

theorem Errand.Permits.grows (errand : Errand) (carried : Session) (calls : Calls)
    (call : (op : AppOp) × Except PyError op.Res) (op : AppOp)
    (h : errand.Permits carried calls op) : errand.Permits carried (calls ++ [call]) op := by
  cases op with
  | setSession new =>
    intro request hcallback
    rcases h request hcallback with hlogin | ⟨code, codeVerifier, answer, hmem⟩
    · exact .inl hlogin
    · exact .inr ⟨code, codeVerifier, answer, List.mem_append_left _ hmem⟩
  | _ => exact h

end Errands

/-! ## The visits of a run -/

namespace Browser

variable {ι : Type} {browser : Browser ι} {config : Config}

/-- A session that comes from a `login_redirect`, or from none, is paired. -/
theorem paired_of_traced {session : Session}
    (h : bindingOrigins.Traced .cleared browser session) : browser.Paired session := by
  rcases h with hcleared | ⟨i, visit, u, hvisit, hdrawn, hkeeps⟩
  · rcases hcleared with ⟨hstate, hverifier⟩ | hunbound
    · exact .inl ⟨hstate, hverifier⟩
    · exact .inl hunbound
  · obtain ⟨herrand, state, verifier, challenge, hstate, hverifier, hdrawn, hpair⟩ := hdrawn
    rcases hkeeps with ⟨hstate', hverifier'⟩ | hunbound
    · exact .inr ⟨i, state, verifier, hstate'.trans hstate, hverifier'.trans hverifier, visit,
        hvisit, herrand, hdrawn, challenge, hpair⟩
    · exact .inl hunbound

theorem paired_of_run [DecidableEq ι] (run : Run config browser) {session : Session}
    (held : browser.Holds session) : browser.Paired session := by
  refine paired_of_traced (Origins.traced (fun errand cookie => ?_) run held)
  exact (prog_keeps config errand cookie).mono (fun _ _ _ => trivial) fun _ _ h => h

theorem permitted_of_run [DecidableEq ι] (run : Run config browser) {i : ι} {visit : Visit}
    (hvisit : browser.visits i = some visit) :
    ∀ call ∈ visit.calls, visit.request.Permits visit.carried visit.calls call.1 := by
  refine CookieJar.permitted Errand.Permits.grows (fun errand cookie => ?_) run i visit hvisit
  exact (prog_keeps config errand cookie).mono (fun _ _ h => h) fun _ _ _ => trivial

/-- The code of a callback is exchanged under the state its request and its cookie carry. -/
theorem verifiedCode_eq_some {request : Request} {session : Session} {code : String}
    {codeVerifier : Option String}
    (h : AuthPages.verifiedCode request session = some (code, codeVerifier)) :
    codeVerifier = session.oauthCodeVerifier ∧
      ∃ state, request.args "state" = some state ∧ session.oauthState = some state := by
  unfold AuthPages.verifiedCode at h
  split at h
  · rename_i received state expected hcode hstate hexpected
    split at h
    · cases h
    · rename_i hchecks
      cases h
      simp only [Bool.or_eq_true, decide_eq_true_eq, not_or, Decidable.not_not] at hchecks
      refine ⟨rfl, state, hstate, ?_⟩
      rw [hexpected, hchecks.2]
  · cases h

/-- The exchange of a visit, with the `login_redirect` behind it. -/
theorem exchange_of_run [DecidableEq ι] (run : Run config browser) {i : ι} {visit : Visit}
    {code : String} {codeVerifier : Option String} {answer : Except PyError TokenReply}
    (hvisit : browser.visits i = some visit)
    (hcall : ⟨.exchangeCode code codeVerifier, answer⟩ ∈ visit.calls) :
    ∃ request state j v, visit.request = .callback request ∧
      request.args "state" = some state ∧ visit.carried.oauthState = some state ∧
      codeVerifier = some v ∧ browser.Issued j state v := by
  obtain ⟨request, herrand, hverified⟩ := permitted_of_run run hvisit _ hcall
  obtain ⟨hverifier, state, hreceived, hexpected⟩ := verifiedCode_eq_some hverified
  rcases paired_of_run run (.inr ⟨i, visit, hvisit, .inl rfl⟩) with
    ⟨hnone, -⟩ | ⟨j, state', v, hstate, hv, hissued⟩
  · rw [hexpected] at hnone
    cases hnone
  · rw [hexpected] at hstate
    cases hstate
    exact ⟨request, state, j, v, herrand, hreceived, hexpected, hverifier.trans hv, hissued⟩

/-- In every run, sign-ins are bound to the browser. -/
theorem bound_of_run [DecidableEq ι] (config : Config) (browser : Browser ι)
    (run : Run config browser) (fresh : browser.NeverRepeats) : browser.Bound := by
  refine ⟨fun session held => paired_of_run run held, ?_, ?_⟩
  · intro i visit code verifier answer hvisit hcall
    obtain ⟨request, state, j, v, herrand, hreceived, hexpected, hv, hissued⟩ :=
      exchange_of_run run hvisit hcall
    refine ⟨request, state, herrand, hreceived, hexpected, j, v, hv, hissued, ?_⟩
    rintro k v' ⟨other, hother, hdrawn⟩
    obtain ⟨login, hlogin, hdrawn'⟩ := hissued
    exact fresh k j other login state hother hlogin hdrawn.state hdrawn'.state
  · intro i visit request new answer hvisit herrand hcall hstarted
    rcases permitted_of_run run hvisit _ hcall request herrand with hlogin |
      ⟨code, codeVerifier, reply, hexchange⟩
    · exact absurd hlogin hstarted
    · obtain ⟨request', state, j, v, herrand', hreceived, -, -, hissued⟩ :=
        exchange_of_run run hvisit hexchange
      rw [herrand] at herrand'
      cases herrand'
      exact ⟨j, state, v, hreceived, hissued⟩

/-- A browser was sent to the Hosted UI and came back. -/
theorem came_back : ∃ browser : Browser Bool, browser.Bound ∧
    ∃ visit, browser.visits true = some visit ∧
      ⟨.exchangeCode "code" (some "v"), .ok .unreachable⟩ ∈ visit.calls := by
  have fresh : @Run Bool _ sampleConfig ⟨.cleared, fun _ => none⟩ := .start
  have sent := fresh.send false .loginRedirect rfl
  have pair := sent.call false _ rfl .generatePkcePair _ rfl (.ok ("v", "challenge")) _ rfl
  have state := pair.call false _ rfl .generateState _ rfl (.ok "st") _ rfl
  have read := state.call false _ rfl .session _ rfl _ _ ⟨rfl, rfl⟩
  have stored := read.call false _ rfl (.setSession _) _ rfl _ _ ⟨rfl, rfl⟩
  have reread := stored.call false _ rfl .session _ rfl _ _ ⟨rfl, rfl⟩
  have left := reread.call false _ rfl (.setSession _) _ rfl _ _ ⟨rfl, rfl⟩
  have received := left.receive false _ rfl (by rintro op next ⟨⟩)
  have back := received.send true (.callback callbackRequest) rfl
  have found := back.call true _ rfl .session _ rfl _ _ ⟨rfl, rfl⟩
  have popped := found.call true _ rfl (.setSession _) _ rfl _ _ ⟨rfl, rfl⟩
  have run := popped.call true _ rfl (.exchangeCode "code" (some "v")) _ rfl
    (.ok .unreachable) _ rfl
  refine ⟨_, bound_of_run sampleConfig _ run ?_, _, rfl, by simp⟩
  intro i j visit visit' state hvisit hvisit' hdrawn hdrawn'
  cases i with
  | true =>
    cases hvisit
    simp at hdrawn
  | false =>
    cases j with
    | false => rfl
    | true =>
      cases hvisit'
      simp at hdrawn'

end Browser

end TenantSaas
