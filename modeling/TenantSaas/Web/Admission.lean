import TenantSaas.Web.SessionKeys

/-!
# Who is let in

The guards find out who is asking, and ask the world for nothing else.  What is done for a request
that they let in is bounded by the authority of the identity they found.
-/

namespace TenantSaas

/-- The calls of the guards. -/
def AppOp.asksWho : AppOp → Bool
  | .setSession _ | .tokenRequest _ => true
  | op => op.readsIdentity

/-- A guard lets a request in under the identity of its session, if that has one, and leaves it
there. -/
structure Session.Entered (s t : Session) (identity : Identity) : Prop where
  kept : t.identity = s.identity
  own : ∀ current, s.identity = some current → identity = current

theorem Session.Entered.speaksFor {s t : Session} {identity : Identity} (h : s.Entered t identity) :
    t.SpeaksFor identity s.identity.isSome := by
  refine ⟨by rw [h.kept], fun current hcurrent => ?_⟩
  rw [h.kept] at hcurrent
  rw [h.own current hcurrent]
  exact .refl current

section Guards

variable {α : Type} {s : Session}

/-- However its calls are answered, a guard only asks who is there. -/
abbrev Asks (Q : Except PyError α → Session → Prop) (p : App α) (s : Session) : Prop :=
  p.Always sessionEnv (fun _ op => op.asksWho = true) Q s

theorem asks_mono {Q Q' : Except PyError α → Session → Prop} (hQ : ∀ r t, Q r t → Q' r t)
    {p : App α} (h : Asks Q p s) : Asks Q' p s := h.mono (fun _ _ hop => hop) hQ

/-- Calls that leave the session. -/
theorem asks_of_calls {p : App α}
    (hp : p.Calls fun op => op.asksWho = true ∧ op.changesSession = false) :
    Asks (fun _ t => t = s) p s := by
  refine Prog.Keeps.of_calls (I := fun t => t = s) ?_ hp s rfl
  intro op t hop ht
  exact ⟨hop.1, fun r u hstep => (sessionEnv_keeps hop.2 hstep).trans ht⟩

theorem asks_of_readsIdentity {p : App α} (hp : p.Calls fun op => op.readsIdentity = true) :
    Asks (fun _ t => t = s) p s := by
  refine asks_of_calls (hp.mono fun op hop => ?_)
  cases op <;> first | exact ⟨rfl, rfl⟩ | cases hop

/-- Reading the session first. -/
theorem asks_read {Q : Except PyError α → Session → Prop} {f : Session → App α}
    (h : Asks Q (f s) s) : Asks Q ((perform .session).bind f) s := by
  refine ⟨rfl, fun r t hrt => ?_⟩
  obtain ⟨rfl, rfl⟩ := hrt
  exact h

/-- Writing the session first. -/
theorem asks_write {Q : Except PyError α → Session → Prop} {new : Session} {f : Unit → App α}
    (h : Asks Q (f ()) new) : Asks Q ((perform (.setSession new)).bind f) s := by
  refine ⟨rfl, fun r t hrt => ?_⟩
  obtain ⟨rfl, rfl⟩ := hrt
  exact h

theorem asks_flash {Q : Except PyError α → Session → Prop} {message category : String}
    {f : Unit → App α}
    (h : ∀ t, t.identity = s.identity → Asks Q (f ()) t) :
    Asks Q ((flash message category).bind f) s := by
  rw [flash, Prog.bind_def, Prog.bind_assoc]
  exact asks_read (asks_write (h _ rfl))

/-- The identity of the session comes before that of a token or of the headers. -/
theorem resolveIdentity_asks (config : Config) (request : Request) :
    Asks (fun r t => t = s ∧ ∀ identity, r = .ok (some identity) →
      ∀ current, s.identity = some current → identity = current)
      (resolveIdentity config request) s := by
  have hcalls := (resolveIdentity_calls config request).2 (.ok s)
  refine asks_read ?_
  simp only [Prog.ret_bind] at hcalls
  cases hidentity : s.identity with
  | some current =>
    refine ⟨rfl, ?_⟩
    rintro identity ⟨⟩ _ ⟨⟩
    rfl
  | none =>
    rw [hidentity] at hcalls
    refine asks_mono (fun r t ht => ⟨ht, ?_⟩) (asks_of_readsIdentity hcalls)
    rintro _ _ _ ⟨⟩

theorem unauthenticatedResponse_asks (config : Config) (request : Request) :
    Asks (fun r _ => ∀ identity, r ≠ .ok (.enter identity))
      (Gate.deny <$> unauthenticatedResponse config request) s := by
  rw [map_eq_pure_bind, Prog.bind_def]
  unfold unauthenticatedResponse
  split
  · rintro identity ⟨⟩
  · rw [Prog.bind_def, Prog.bind_assoc]
    refine asks_flash fun t _ => ?_
    rintro identity ⟨⟩

/-- The guard only asks who is there, and the session keeps its identity. -/
abbrev AsksFor (identity : Option Identity) (p : App α) : Prop :=
  Prog.Keeps sessionEnv (fun _ op => op.asksWho = true) (fun t => t.identity = identity) p

theorem asksFor_of_calls {identity : Option Identity} {p : App α}
    (hp : p.Calls fun op => op.asksWho = true ∧ op.changesSession = false) :
    AsksFor identity p :=
  fun t ht => asks_mono (fun _ u (hu : u = t) => hu ▸ ht) (asks_of_calls hp)

/-- Changing the session under its identity. -/
theorem asksFor_update {identity : Option Identity} {f : Session → Session} {next : Unit → App α}
    (hf : ∀ t, (f t).identity = t.identity) (hnext : AsksFor identity (next ())) :
    AsksFor identity ((perform .session).bind fun t => (perform (.setSession (f t))).bind next) :=
  fun t ht => asks_read (asks_write (hnext _ ((hf t).trans ht)))

/-- Tokens are renewed in the same session, or it is cleared. -/
theorem refreshSessionTokens_asks (refreshToken : Json) :
    Asks (fun r t => r = .ok true → t.identity = s.identity) (refreshSessionTokens refreshToken)
      s := by
  refine Prog.Always.handle ?_
  refine asks_mono (fun r t ht => ?_) ((Prog.Keeps.bind ?_ fun newTokens => ?_ :
    AsksFor s.identity _) s rfl)
  · cases r with
    | ok refreshed => exact fun _ => ht
    | error e =>
      cases e <;> first
        | (rintro ⟨⟩)
        | exact asks_write (by rintro ⟨⟩)
  · exact asksFor_of_calls (refreshTokens_calls _ ⟨rfl, rfl⟩)
  · refine asksFor_update (fun _ => rfl) ?_
    refine Prog.Keeps.bind (asksFor_of_calls (perform_calls ⟨rfl, rfl⟩)) fun now => ?_
    refine Prog.Keeps.bind (asksFor_of_calls (Prog.Calls.ofExcept _)) fun expiresIn => ?_
    exact asksFor_update (fun _ => rfl) (Prog.Keeps.ret _)

theorem refreshSessionTokensIfNeeded_asks :
    Asks (fun r t => r = .ok true → t.identity = s.identity) refreshSessionTokensIfNeeded s := by
  refine asks_read ?_
  cases s.tokenExpiresAt with
  | none => exact fun _ => rfl
  | some expiresAt =>
    show Asks _ (if _ then _ else _) s
    split
    · exact fun _ => rfl
    have htime : (perform .time).Calls fun op => op.readsIdentity = true := perform_calls rfl
    refine Prog.Always.bind (asks_mono (fun r t ht => ?_) (asks_of_readsIdentity htime))
    subst ht
    cases r with
    | error e => rintro ⟨⟩
    | ok now =>
      show Asks _ (if _ then _ else _) t
      split
      · exact fun _ => rfl
      split
      · exact asks_write (by rintro ⟨⟩)
      · exact refreshSessionTokens_asks _

/-- What the guards have found out when they let a request in. -/
theorem loginRequired_asks (config : Config) (request : Request) :
    Asks (fun r t => ∀ identity, r = .ok (.enter identity) → s.Entered t identity)
      (loginRequired config request) s := by
  refine Prog.Always.bind (asks_mono (fun r t ht => ?_) (resolveIdentity_asks config request))
  obtain ⟨rfl, hown⟩ := ht
  cases r with
  | error e => rintro _ ⟨⟩
  | ok identity =>
    cases identity with
    | none =>
      exact asks_mono (fun r u hdeny identity h => absurd h (hdeny identity))
        (unauthenticatedResponse_asks config request)
    | some identity =>
      refine asks_read ?_
      split
      · refine Prog.Always.bind (asks_mono (fun r u hu => ?_) refreshSessionTokensIfNeeded_asks)
        cases r with
        | error e => rintro _ ⟨⟩
        | ok refreshed =>
          cases refreshed with
          | false => exact asks_flash fun _ _ => by rintro _ ⟨⟩
          | true =>
            rintro _ ⟨⟩
            exact ⟨hu rfl, hown identity rfl⟩
      · rintro _ ⟨⟩
        exact ⟨rfl, hown identity rfl⟩

theorem adminRequired_asks (config : Config) (request : Request) :
    Asks (fun r t => ∀ identity, r = .ok (.enter identity) →
      s.Entered t identity ∧ identity.role = "admin") (adminRequired config request) s := by
  refine Prog.Always.bind (asks_mono (fun r t ht => ?_) (resolveIdentity_asks config request))
  obtain ⟨rfl, hown⟩ := ht
  cases r with
  | error e => rintro _ ⟨⟩
  | ok identity =>
    cases identity with
    | none =>
      exact asks_mono (fun r u hdeny identity h => absurd h (hdeny identity))
        (unauthenticatedResponse_asks config request)
    | some identity =>
      show Asks _ (if _ then _ else _) t
      split
      · split
        · rintro _ ⟨⟩
        · exact asks_flash fun _ _ => by rintro _ ⟨⟩
      next hadmin =>
        rintro _ ⟨⟩
        exact ⟨⟨rfl, hown identity rfl⟩, not_not.mp hadmin⟩

theorem guard_asks (config : Config) (request : Request) (route : Route) :
    Asks (fun r t => ∀ identity, r = .ok (.enter identity) →
      s.Entered t identity ∧ (route.isAdmin = true → identity.role = "admin"))
      (route.guard config request) s := by
  unfold Route.guard
  split
  · exact asks_mono (fun r t h identity hr => ⟨(h identity hr).1, fun _ => (h identity hr).2⟩)
      (adminRequired_asks config request)
  next hlogin =>
    exact asks_mono (fun r t h identity hr => ⟨h identity hr, fun h => absurd h hlogin⟩)
      (loginRequired_asks config request)

end Guards

/-! ## Serving what was let in -/

section Serving

variable {identity : Identity} {signedIn : Bool}

/-- A view reads its session, and leaves or writes it, in any environment in which the session is
that of the identity and may be written for it. -/
theorem AfterReading.keeps {σ α : Type} {env : Prog.Env AppOp.Res PyError σ} {E : σ → AppOp → Prop}
    {I : σ → Prop} {f : Session → App α}
    (read : ∀ s, I s → E s .session ∧ ∀ r t, env s .session r t →
      ∃ current, r = .ok current ∧ current.SpeaksFor identity signedIn ∧ I t)
    (write : ∀ s new, I s → new.SpeaksFor identity signedIn → E s (.setSession new) ∧
      ∀ r t, env s (.setSession new) r t → r = .ok () ∧ I t)
    (h : ∀ s, s.SpeaksFor identity signedIn →
      AfterReading (fun {_} p => Prog.Keeps env E I p) (Session.SpeaksFor identity signedIn)
        (f s)) :
    Prog.Keeps env E I ((perform .session).bind f) := by
  intro s hs
  obtain ⟨hread, hanswers⟩ := read s hs
  refine Prog.Always.bind (Prog.Always.perform hread fun r t hstep => ?_)
  obtain ⟨current, rfl, hspeaks, ht⟩ := hanswers r t hstep
  have hf := h current hspeaks
  show Prog.Always _ _ _ (f current) t
  generalize f current = p at hf
  cases hf with
  | leaves hp => exact hp t ht
  | writes new next speaks hnext =>
    obtain ⟨hwrite, hwritten⟩ := write t new ht speaks
    refine Prog.Always.bind (Prog.Always.perform hwrite fun r u hstep => ?_)
    obtain ⟨rfl, hu⟩ := hwritten r u hstep
    exact hnext () u hu

/-- However its calls are answered, all are within the authority of the identity, and the session
still speaks for it. -/
abbrev KeepsAuthority (identity : Identity) (signedIn : Bool) {α : Type} (p : App α) : Prop :=
  Prog.Keeps sessionEnv (fun _ op => op.AllowedFor identity)
    (Session.SpeaksFor identity signedIn) p

theorem keepsAuthority_of_calls {α : Type} {p : App α}
    (hp : p.Calls fun op => op.AllowedFor identity ∧ op.changesSession = false) :
    KeepsAuthority identity signedIn p := by
  refine Prog.Keeps.of_calls (fun op s hop hs => ⟨hop.1, fun r t hstep => ?_⟩) hp
  rw [sessionEnv_keeps hop.2 hstep]
  exact hs

theorem reads_keepsSession {op : AppOp} (h : (op.reads || op.locks) = true) :
    op.changesSession = false := by
  cases op <;> first | rfl | cases h

/-- An account is made for an administrator. -/
theorem createCognitoUser_calls {config : Config} (admin : identity.role = "admin") {role : String}
    (hrole : role = "admin" ∨ role = "user") (username email : String) :
    (createCognitoUser config username email identity.tenant role).Calls fun op =>
      op.AllowedFor identity ∧ op.isSql = false ∧ op.changesSession = false := by
  refine Prog.Calls.bind (perform_calls ⟨admin, rfl, rfl⟩) fun _ => ?_
  split
  · refine Prog.Calls.bind (perform_calls ⟨trivial, rfl, rfl⟩) fun _ => ?_
    exact Prog.Calls.bind (perform_calls ⟨admin, rfl, rfl⟩) fun _ => trivial
  · refine Prog.Calls.bind (perform_calls ⟨⟨admin, trivial⟩, rfl, rfl⟩) fun _ => ?_
    exact Prog.Calls.bind (perform_calls ⟨⟨admin, role, hrole, rfl⟩, rfl, rfl⟩) fun _ => trivial

theorem serves_authority (config : Config) (identity : Identity) (signedIn : Bool) :
    Serves config identity signedIn (KeepsAuthority identity signedIn) where
  ret := Prog.Keeps.ret
  raise := Prog.Keeps.raise
  bind := Prog.Keeps.bind
  handle := Prog.Keeps.handle
  perform hop := keepsAuthority_of_calls (perform_calls ⟨hop.allowed, hop.keepsSession⟩)
  account admin {role} hrole username email :=
    keepsAuthority_of_calls ((createCognitoUser_calls admin hrole username email).mono
      fun _ hop => ⟨hop.1, hop.2.2⟩)
  reading {α body} hbody := by
    refine keepsAuthority_of_calls (Prog.Calls.bind (perform_calls ⟨trivial, rfl⟩) fun _ => ?_)
    refine Prog.Calls.finally' (hbody.mono fun op hop => ?_) (perform_calls ⟨trivial, rfl⟩)
    exact ⟨hop.2, reads_keepsSession (by rw [hop.1]; rfl)⟩
  transaction {α body} hbody := by
    refine keepsAuthority_of_calls (Prog.Calls.bind (perform_calls ⟨trivial, rfl⟩) fun _ => ?_)
    refine Prog.Calls.finally' (Prog.Calls.handle (Prog.Calls.bind ?_ fun _ => ?_) fun e => ?_)
      (perform_calls ⟨trivial, rfl⟩)
    · exact hbody.mono fun op hop => ⟨hop.2, reads_keepsSession hop.1⟩
    · exact Prog.Calls.bind (perform_calls ⟨trivial, rfl⟩) fun _ => trivial
    · exact Prog.Calls.bind (perform_calls ⟨trivial, rfl⟩) fun _ => trivial
  session h := by
    refine AfterReading.keeps ?_ ?_ h
    · rintro s hs
      refine ⟨trivial, fun r t hrt => ?_⟩
      obtain ⟨rfl, rfl⟩ := hrt
      exact ⟨t, rfl, hs, hs⟩
    · rintro s new hs hnew
      refine ⟨trivial, fun r t hrt => ?_⟩
      obtain ⟨rfl, rfl⟩ := hrt
      exact ⟨rfl, hnew⟩

end Serving

end TenantSaas
