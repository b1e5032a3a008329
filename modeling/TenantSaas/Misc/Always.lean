import TenantSaas.Misc.Prog

/-!
# Whatever the calls answer

Programs in an environment that may answer a call in more than one way.  `Always` says what
holds of every call and at the end, however the calls are answered; `Moves` relates the state
at the end to the state at the start.
-/

namespace Prog

variable {Op : Type} {Res : Op → Type} {ε α β σ τ : Type}

/-- The answers an environment may give to a call, with the states it may leave. -/
abbrev Env (Res : Op → Type) (ε σ : Type) :=
  σ → (op : Op) → Except ε (Res op) → σ → Prop

/-- However the calls are answered, `E` holds where a call is made, and `Q` at the end. -/
def Always (env : Env Res ε σ) (E : σ → Op → Prop) (Q : Except ε α → σ → Prop) :
    Prog Res ε α → σ → Prop
  | ret a, s => Q (.ok a) s
  | raise e, s => Q (.error e) s
  | call op next, s => E s op ∧ ∀ r t, env s op r t → (next r).Always env E Q t

/-- Goes on from `inr` to the next round, for `n` rounds at most. -/
def iterate (step : α → Prog Res ε (β ⊕ α)) : Nat → α → Prog Res ε (Option β)
  | 0, _ => ret none
  | n + 1, a => (step a).bind fun result =>
    match result with
    | .inl b => ret (some b)
    | .inr a => iterate step n a

namespace Always

variable {env : Env Res ε σ} {E E' : σ → Op → Prop}

theorem mono {Q Q' : Except ε α → σ → Prop} (hE : ∀ s op, E s op → E' s op)
    (hQ : ∀ r s, Q r s → Q' r s) {p : Prog Res ε α} {s : σ} (h : p.Always env E Q s) :
    p.Always env E' Q' s := by
  induction p generalizing s with
  | ret a => exact hQ _ _ h
  | raise e => exact hQ _ _ h
  | call op next ih => exact ⟨hE s op h.1, fun r t hrt => ih r (h.2 r t hrt)⟩

theorem perform {Q : Except ε (Res op) → σ → Prop} {s : σ} (hE : E s op)
    (hQ : ∀ r t, env s op r t → Q r t) :
    (Prog.perform op : Prog Res ε (Res op)).Always env E Q s := by
  refine ⟨hE, fun r t hrt => ?_⟩
  cases r with
  | ok a => exact hQ _ _ hrt
  | error e => exact hQ _ _ hrt

/-- The second program starts where the first returned. -/
theorem bind {Q : Except ε β → σ → Prop} {p : Prog Res ε α} {f : α → Prog Res ε β} {s : σ}
    (h : p.Always env E (fun r t =>
      match r with
      | .ok a => (f a).Always env E Q t
      | .error e => Q (.error e) t) s) :
    (p.bind f).Always env E Q s := by
  induction p generalizing s with
  | ret a => exact h
  | raise e => exact h
  | call op next ih => exact ⟨h.1, fun r t hrt => ih r (h.2 r t hrt)⟩

/-- A value computed without calls. -/
theorem ofExcept_bind {Q : Except ε β → σ → Prop} {r : Except ε α} {f : α → Prog Res ε β} {s : σ}
    (herror : ∀ e, r = .error e → Q (.error e) s)
    (hok : ∀ a, r = .ok a → (f a).Always env E Q s) :
    ((Prog.ofExcept r).bind f).Always env E Q s := by
  cases r with
  | ok a => exact hok a rfl
  | error e => exact herror e rfl

theorem handle {Q : Except ε α → σ → Prop} {p : Prog Res ε α} {h : ε → Prog Res ε α} {s : σ}
    (hp : p.Always env E (fun r t =>
      match r with
      | .ok a => Q (.ok a) t
      | .error e => (h e).Always env E Q t) s) :
    (p.handle h).Always env E Q s := by
  induction p generalizing s with
  | ret a => exact hp
  | raise e => exact hp
  | call op next ih => exact ⟨hp.1, fun r t hrt => ih r (hp.2 r t hrt)⟩

/-- The last part starts wherever the first ended; an exception of its own replaces the first's
outcome. -/
theorem finally' {Q : Except ε α → σ → Prop} {p : Prog Res ε α} {last : Prog Res ε Unit} {s : σ}
    (h : p.Always env E (fun r t => last.Always env E (fun r' u =>
      match r' with
      | .ok _ => Q r u
      | .error e => Q (.error e) u) t) s) :
    (p.finally' last).Always env E Q s := by
  induction p generalizing s with
  | ret a =>
    refine bind (mono (fun _ _ hop => hop) (fun r t ht => ?_) h)
    cases r <;> exact ht
  | raise e =>
    refine bind (mono (fun _ _ hop => hop) (fun r t ht => ?_) h)
    cases r <;> exact ht
  | call op next ih => exact ⟨h.1, fun r t hrt => ih r (h.2 r t hrt)⟩

/-- What holds whatever is answered holds of an environment that does no more. -/
theorem simulate {env' : Env Res ε τ} (f : τ → σ)
    (hstep : ∀ t op r t', env' t op r t' → env (f t) op r (f t'))
    {Q : Except ε α → σ → Prop} {p : Prog Res ε α} {t : τ} (h : p.Always env E Q (f t)) :
    p.Always env' (fun t op => E (f t) op) (fun r t => Q r (f t)) t := by
  induction p generalizing t with
  | ret a => exact h
  | raise e => exact h
  | call op next ih => exact ⟨h.1, fun r t' hrt => ih r (h.2 r (f t') (hstep t op r t' hrt))⟩

theorem and {Q Q' : Except ε α → σ → Prop} {p : Prog Res ε α} {s : σ} (h : p.Always env E Q s)
    (h' : p.Always env E' Q' s) :
    p.Always env (fun s op => E s op ∧ E' s op) (fun r t => Q r t ∧ Q' r t) s := by
  induction p generalizing s with
  | ret a => exact ⟨h, h'⟩
  | raise e => exact ⟨h, h'⟩
  | call op next ih => exact ⟨⟨h.1, h'.1⟩, fun r t hrt => ih r (h.2 r t hrt) (h'.2 r t hrt)⟩

/-- What the permitted calls keep holds at every call and at the end. -/
theorem invariant {J : σ → Prop} (step : ∀ s op r t, J s → E s op → env s op r t → J t)
    {Q : Except ε α → σ → Prop} {p : Prog Res ε α} {s : σ} (hs : J s) (h : p.Always env E Q s) :
    p.Always env (fun s op => J s ∧ E s op) (fun r t => J t ∧ Q r t) s := by
  induction p generalizing s with
  | ret a => exact ⟨hs, h⟩
  | raise e => exact ⟨hs, h⟩
  | call op next ih =>
    exact ⟨⟨hs, h.1⟩, fun r t hrt => ih r (step s op r t hs h.1 hrt) (h.2 r t hrt)⟩

/-- The run against an executor is one of those the environment allows. -/
theorem run {exec : σ → (op : Op) → Except ε (Res op) × σ}
    (hexec : ∀ s op, env s op (exec s op).1 (exec s op).2) {Q : Except ε α → σ → Prop}
    {p : Prog Res ε α} {s : σ} (h : p.Always env E Q s) :
    Q (Prog.run exec p s).1 (Prog.run exec p s).2 := by
  induction p generalizing s with
  | ret a => exact h
  | raise e => exact h
  | call op next ih => exact ih _ (h.2 _ _ (hexec s op))

/-- Rounds that each lower a rank come to an end. -/
theorem iterate {env : Env Res ε σ} {E : σ → Op → Prop} {step : α → Prog Res ε (β ⊕ α)}
    {rank : σ → α → Nat}
    (descends : ∀ s a, (step a).Always env E
      (fun r t => ∃ result, r = .ok result ∧ ∀ next, result = .inr next → rank t next < rank s a) s)
    (n : Nat) (s : σ) (a : α) (h : rank s a < n) :
    (Prog.iterate step n a).Always env E (fun r _ => ∃ b, r = .ok (some b)) s := by
  induction n generalizing s a with
  | zero => exact absurd h (Nat.not_lt_zero _)
  | succ n ih =>
    refine Always.bind ((descends s a).mono (fun _ _ hop => hop) fun r t hr => ?_)
    obtain ⟨result, rfl, hlower⟩ := hr
    cases result with
    | inl b => exact ⟨b, rfl⟩
    | inr next =>
      have hnext := hlower next rfl
      exact ih t next (by omega)

end Always

/-- However the calls are answered, all of them satisfy `P` and the end is related to the
start. -/
def Moves (env : Env Res ε σ) (P : Op → Prop) (R : σ → σ → Prop) (p : Prog Res ε α) : Prop :=
  ∀ s, p.Always env (fun _ op => P op) (fun _ t => R s t) s

namespace Moves

variable {env : Env Res ε σ} {P : Op → Prop} {R : σ → σ → Prop}

section Reflexive

variable (refl : ∀ s, R s s)

include refl

theorem ret (a : α) : Moves env P R (Prog.ret a : Prog Res ε α) := fun s => refl s

theorem raise (e : ε) : Moves env P R (Prog.raise e : Prog Res ε α) := fun s => refl s

theorem ofExcept (r : Except ε α) : Moves env P R (Prog.ofExcept r : Prog Res ε α) := by
  cases r with
  | ok a => exact ret refl a
  | error e => exact raise refl e

end Reflexive

section Transitive

variable (trans : ∀ s t u, R s t → R t u → R s u)

include trans

theorem after {p : Prog Res ε α} {s t : σ} (hst : R s t) (hp : Moves env P R p) :
    p.Always env (fun _ op => P op) (fun _ u => R s u) t :=
  (hp t).mono (fun _ _ h => h) fun _ u h => trans s t u hst h

theorem bind {p : Prog Res ε α} {f : α → Prog Res ε β} (hp : Moves env P R p)
    (hf : ∀ a, Moves env P R (f a)) : Moves env P R (p.bind f) := by
  intro s
  refine Always.bind ((hp s).mono (fun _ _ h => h) fun r t hst => ?_)
  cases r with
  | ok a => exact after trans hst (hf a)
  | error e => exact hst

theorem handle {p : Prog Res ε α} {h : ε → Prog Res ε α} (hp : Moves env P R p)
    (hh : ∀ e, Moves env P R (h e)) : Moves env P R (p.handle h) := by
  intro s
  refine Always.handle ((hp s).mono (fun _ _ h => h) fun r t hst => ?_)
  cases r with
  | ok a => exact hst
  | error e => exact after trans hst (hh e)

end Transitive

/-- Calls that each move the state by `R`. -/
theorem of_calls (refl : ∀ s, R s s) (trans : ∀ s t u, R s t → R t u → R s u) {C : Op → Prop}
    (step : ∀ op s r t, C op → env s op r t → P op ∧ R s t) (permitted : ∀ op, C op → P op)
    {p : Prog Res ε α} (hp : p.Calls C) : Moves env P R p := by
  intro s
  induction p generalizing s with
  | ret a => exact refl s
  | raise e => exact refl s
  | call op next ih =>
    refine ⟨permitted op hp.1, fun r t hrt => ?_⟩
    exact after trans (step op s r t hp.1 hrt).2 (fun s => ih r (hp.2 r) s)

end Moves

/-- From a state with `I`, however the calls are answered, all of them satisfy `E` and the end has
`I` again. -/
def Keeps (env : Env Res ε σ) (E : σ → Op → Prop) (I : σ → Prop) (p : Prog Res ε α) : Prop :=
  ∀ s, I s → p.Always env E (fun _ t => I t) s

namespace Keeps

variable {env : Env Res ε σ} {E : σ → Op → Prop} {I : σ → Prop}

theorem ret (a : α) : Keeps env E I (Prog.ret a : Prog Res ε α) := fun _ hs => hs

theorem raise (e : ε) : Keeps env E I (Prog.raise e : Prog Res ε α) := fun _ hs => hs

theorem bind {p : Prog Res ε α} {f : α → Prog Res ε β} (hp : Keeps env E I p)
    (hf : ∀ a, Keeps env E I (f a)) : Keeps env E I (p.bind f) := by
  intro s hs
  refine Always.bind ((hp s hs).mono (fun _ _ h => h) fun r t ht => ?_)
  cases r with
  | ok a => exact hf a t ht
  | error e => exact ht

theorem handle {p : Prog Res ε α} {h : ε → Prog Res ε α} (hp : Keeps env E I p)
    (hh : ∀ e, Keeps env E I (h e)) : Keeps env E I (p.handle h) := by
  intro s hs
  refine Always.handle ((hp s hs).mono (fun _ _ h => h) fun r t ht => ?_)
  cases r with
  | ok a => exact ht
  | error e => exact hh e t ht

/-- Calls that each keep the invariant. -/
theorem of_calls {C : Op → Prop}
    (step : ∀ op s, C op → I s → E s op ∧ ∀ r t, env s op r t → I t)
    {p : Prog Res ε α} (hp : p.Calls C) : Keeps env E I p := by
  intro s hs
  induction p generalizing s with
  | ret a => exact hs
  | raise e => exact hs
  | call op next ih =>
    obtain ⟨hop, hnext⟩ := step op s hp.1 hs
    exact ⟨hop, fun r t hrt => ih r (hp.2 r) t (hnext r t hrt)⟩

end Keeps

end Prog
