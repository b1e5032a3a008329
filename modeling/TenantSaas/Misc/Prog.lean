import Mathlib.Tactic.Common

/-!
# Programs over external calls

A program is the tree of the calls it makes: it returns, raises, or issues one call
and continues with what the call answered.  The tree fixes the code and leaves the
meaning of the calls open, so that one program can be run alone (`run`), run against
calls that fail (`run` with a failing environment), or be one thread of many.
-/

/-- A program over calls `op` answered by `Res op`; every call may also raise. -/
inductive Prog {Op : Type} (Res : Op → Type) (ε α : Type) where
  | ret (value : α)
  | raise (error : ε)
  | call (op : Op) (next : Except ε (Res op) → Prog Res ε α)

namespace Prog

variable {Op : Type} {Res : Op → Type} {ε α β γ σ : Type}

/-- Sequencing: an exception of the first program skips the second. -/
def bind : Prog Res ε α → (α → Prog Res ε β) → Prog Res ε β
  | ret a, f => f a
  | raise e, _ => raise e
  | call op next, f => call op fun r => (next r).bind f

/-- `try p except e: handler e`. -/
def handle : Prog Res ε α → (ε → Prog Res ε α) → Prog Res ε α
  | ret a, _ => ret a
  | raise e, h => h e
  | call op next, h => call op fun r => (next r).handle h

/-- `try p finally: last`; an exception of `last` replaces the outcome of `p`. -/
def finally' : Prog Res ε α → Prog Res ε Unit → Prog Res ε α
  | ret a, last => last.bind fun _ => ret a
  | raise e, last => last.bind fun _ => raise e
  | call op next, last => call op fun r => (next r).finally' last

/-- One call, raising what the call raises. -/
def perform (op : Op) : Prog Res ε (Res op) :=
  call op fun
    | .ok value => ret value
    | .error e => raise e

/-- A computation without calls. -/
def ofExcept : Except ε α → Prog Res ε α
  | .ok a => ret a
  | .error e => raise e

instance : Monad (Prog Res ε) where
  pure := ret
  bind := bind

instance : MonadExceptOf ε (Prog Res ε) where
  throw := raise
  tryCatch := handle

@[simp] theorem pure_def (a : α) : (pure a : Prog Res ε α) = ret a := rfl
@[simp] theorem bind_def (p : Prog Res ε α) (f : α → Prog Res ε β) : (p >>= f) = p.bind f := rfl
@[simp] theorem throw_def (e : ε) : (throw e : Prog Res ε α) = raise e := rfl
@[simp] theorem tryCatch_def (p : Prog Res ε α) (h : ε → Prog Res ε α) :
    tryCatch p h = p.handle h := rfl
@[simp] theorem ret_bind (a : α) (f : α → Prog Res ε β) : (ret a : Prog Res ε α).bind f = f a := rfl
@[simp] theorem raise_bind (e : ε) (f : α → Prog Res ε β) :
    (raise e : Prog Res ε α).bind f = raise e := rfl
@[simp] theorem call_bind (op : Op) (next : Except ε (Res op) → Prog Res ε α)
    (f : α → Prog Res ε β) : (call op next).bind f = call op fun r => (next r).bind f := rfl

theorem bind_ret (p : Prog Res ε α) : p.bind ret = p := by
  induction p with
  | ret a => rfl
  | raise e => rfl
  | call op next ih => exact congrArg (call op) (funext ih)

theorem bind_assoc (p : Prog Res ε α) (f : α → Prog Res ε β) (g : β → Prog Res ε γ) :
    (p.bind f).bind g = p.bind fun a => (f a).bind g := by
  induction p with
  | ret a => rfl
  | raise e => rfl
  | call op next ih => exact congrArg (call op) (funext ih)

instance : LawfulMonad (Prog Res ε) :=
  LawfulMonad.mk' _ (fun p => bind_ret p) (fun _ _ => rfl) (fun p f g => bind_assoc p f g)

/-! ## Running alone -/

/-- Run a program on a state; `exec` answers one call and moves the state. -/
def run (exec : σ → (op : Op) → Except ε (Res op) × σ) : Prog Res ε α → σ → Except ε α × σ
  | ret a, s => (.ok a, s)
  | raise e, s => (.error e, s)
  | call op next, s => run exec (next (exec s op).1) (exec s op).2

section Run

variable (exec : σ → (op : Op) → Except ε (Res op) × σ)

@[simp] theorem run_ret (a : α) (s : σ) : run exec (ret a) s = (.ok a, s) := rfl
@[simp] theorem run_raise (e : ε) (s : σ) :
    run exec (raise e : Prog Res ε α) s = (.error e, s) := rfl
@[simp] theorem run_call (op : Op) (next : Except ε (Res op) → Prog Res ε α) (s : σ) :
    run exec (call op next) s = run exec (next (exec s op).1) (exec s op).2 := rfl

theorem run_bind (p : Prog Res ε α) (f : α → Prog Res ε β) (s : σ) :
    run exec (p.bind f) s =
      match run exec p s with
      | (.ok a, s') => run exec (f a) s'
      | (.error e, s') => (.error e, s') := by
  induction p generalizing s with
  | ret a => rfl
  | raise e => rfl
  | call op next ih => exact ih _ _

theorem run_handle (p : Prog Res ε α) (h : ε → Prog Res ε α) (s : σ) :
    run exec (p.handle h) s =
      match run exec p s with
      | (.ok a, s') => (.ok a, s')
      | (.error e, s') => run exec (h e) s' := by
  induction p generalizing s with
  | ret a => rfl
  | raise e => rfl
  | call op next ih => exact ih _ _

theorem run_bind_eq_ok {p : Prog Res ε α} {f : α → Prog Res ε β} {s s' : σ} {b : β} :
    run exec (p.bind f) s = (.ok b, s') ↔
      ∃ a t, run exec p s = (.ok a, t) ∧ run exec (f a) t = (.ok b, s') := by
  rw [run_bind]
  rcases run exec p s with ⟨_ | a, t⟩
  · simp
  · constructor
    · intro h
      exact ⟨a, t, rfl, h⟩
    · intro h'
      obtain ⟨a', t', ⟨⟩, h⟩ := h'
      exact h

theorem run_handle_eq_ok {p : Prog Res ε α} {h : ε → Prog Res ε α} {s s' : σ} {a : α} :
    run exec (p.handle h) s = (.ok a, s') ↔
      run exec p s = (.ok a, s') ∨
        ∃ e t, run exec p s = (.error e, t) ∧ run exec (h e) t = (.ok a, s') := by
  rw [run_handle]
  rcases run exec p s with ⟨e | a', t⟩
  · constructor
    · intro hrun
      exact .inr ⟨e, t, rfl, hrun⟩
    · intro h'
      rcases h' with ⟨⟨⟩⟩ | ⟨e', t', ⟨⟩, hrun⟩
      exact hrun
  · simp

theorem run_finally (p : Prog Res ε α) (last : Prog Res ε Unit) (s : σ) :
    run exec (p.finally' last) s =
      match run exec last (run exec p s).2 with
      | (.ok _, s') => ((run exec p s).1, s')
      | (.error e, s') => (.error e, s') := by
  induction p generalizing s with
  | ret a =>
    rw [finally', run_bind, run_ret]
    rcases run exec last s with ⟨_ | _, _⟩ <;> rfl
  | raise e =>
    rw [finally', run_bind, run_raise]
    rcases run exec last s with ⟨_ | _, _⟩ <;> rfl
  | call op next ih => exact ih _ _

@[simp] theorem run_perform (op : Op) (s : σ) : run exec (perform op) s = exec s op := by
  rcases h : exec s op with ⟨_ | _, _⟩ <;> simp [perform, h]

@[simp] theorem run_ofExcept (r : Except ε α) (s : σ) : run exec (ofExcept r) s = (r, s) := by
  cases r <;> rfl

end Run

/-! ## The calls of a run -/

/-- The calls a run makes, with what each answered. -/
def trace (exec : σ → (op : Op) → Except ε (Res op) × σ) :
    Prog Res ε α → σ → List ((op : Op) × Except ε (Res op))
  | ret _, _ => []
  | raise _, _ => []
  | call op next, s =>
    ⟨op, (exec s op).1⟩ :: trace exec (next (exec s op).1) (exec s op).2

section Trace

variable (exec : σ → (op : Op) → Except ε (Res op) × σ)

theorem trace_bind (p : Prog Res ε α) (f : α → Prog Res ε β) (s : σ) :
    trace exec (p.bind f) s = trace exec p s ++
      match run exec p s with
      | (.ok a, s') => trace exec (f a) s'
      | (.error _, _) => [] := by
  induction p generalizing s with
  | ret a => rfl
  | raise e => rfl
  | call op next ih => exact congrArg (List.cons _) (ih _ _)

theorem trace_handle (p : Prog Res ε α) (h : ε → Prog Res ε α) (s : σ) :
    trace exec (p.handle h) s = trace exec p s ++
      match run exec p s with
      | (.ok _, _) => []
      | (.error e, s') => trace exec (h e) s' := by
  induction p generalizing s with
  | ret a => rfl
  | raise e => rfl
  | call op next ih => exact congrArg (List.cons _) (ih _ _)

end Trace

/-! ## Which calls a program can make -/

/-- Every call the program can make, whatever the earlier calls answered, satisfies `P`. -/
def Calls (P : Op → Prop) : Prog Res ε α → Prop
  | ret _ => True
  | raise _ => True
  | call op next => P op ∧ ∀ r, (next r).Calls P

namespace Calls

variable {P Q : Op → Prop}

theorem mono (h : ∀ op, P op → Q op) {p : Prog Res ε α} (hp : p.Calls P) : p.Calls Q := by
  induction p with
  | ret a => trivial
  | raise e => trivial
  | call op next ih => exact ⟨h op hp.1, fun r => ih r (hp.2 r)⟩

@[simp] theorem ret (a : α) : (ret a : Prog Res ε α).Calls P := trivial
@[simp] theorem raise (e : ε) : (raise e : Prog Res ε α).Calls P := trivial

@[simp] theorem perform_iff (op : Op) : (perform op : Prog Res ε (Res op)).Calls P ↔ P op := by
  refine ⟨And.left, fun h => ⟨h, fun r => ?_⟩⟩
  cases r <;> trivial

@[simp] theorem ofExcept (r : Except ε α) : (ofExcept r : Prog Res ε α).Calls P := by
  cases r <;> trivial

theorem bind {p : Prog Res ε α} {f : α → Prog Res ε β} (hp : p.Calls P)
    (hf : ∀ a, (f a).Calls P) : (p.bind f).Calls P := by
  induction p with
  | ret a => exact hf a
  | raise e => trivial
  | call op next ih => exact ⟨hp.1, fun r => ih r (hp.2 r)⟩

theorem ofExcept_bind {r : Except ε α} {f : α → Prog Res ε β}
    (h : ∀ a, r = .ok a → (f a).Calls P) :
    ((Prog.ofExcept r : Prog Res ε α).bind f).Calls P := by
  cases r with
  | ok a => exact h a rfl
  | error e => trivial

theorem handle {p : Prog Res ε α} {h : ε → Prog Res ε α} (hp : p.Calls P)
    (hh : ∀ e, (h e).Calls P) : (p.handle h).Calls P := by
  induction p with
  | ret a => trivial
  | raise e => exact hh e
  | call op next ih => exact ⟨hp.1, fun r => ih r (hp.2 r)⟩

theorem finally' {p : Prog Res ε α} {last : Prog Res ε Unit} (hp : p.Calls P)
    (hl : last.Calls P) : (p.finally' last).Calls P := by
  induction p with
  | ret a => exact bind hl fun _ => trivial
  | raise e => exact bind hl fun _ => trivial
  | call op next ih => exact ⟨hp.1, fun r => ih r (hp.2 r)⟩

end Calls

theorem calls_true (p : Prog Res ε α) : p.Calls fun _ => True := by
  induction p with
  | ret a => trivial
  | raise e => trivial
  | call op next ih => exact ⟨trivial, ih⟩

/-- The program has returned. -/
def isRet : Prog Res ε α → Bool
  | ret _ => true
  | _ => false

theorem isRet_iff {p : Prog Res ε α} : p.isRet = true ↔ ∃ a, p = ret a := by
  cases p <;> simp [isRet]

/-! ## Straight programs -/

/-- As long as nothing is raised, the calls are those described one after the other, and then
the program returns. -/
def Follows : List (Op → Prop) → Prog Res ε α → Prop
  | [], p => ∃ a, p = ret a
  | P :: Ps, p => ∃ op next, p = call op next ∧ P op ∧ ∀ a, Follows Ps (next (.ok a))

namespace Follows

variable {P : Op → Prop} {Ps Qs : List (Op → Prop)}

theorem ret (a : α) : Follows [] (ret a : Prog Res ε α) := ⟨a, rfl⟩

theorem perform {op : Op} (h : P op) : Follows [P] (perform op : Prog Res ε (Res op)) :=
  ⟨op, _, rfl, h, fun a => ⟨a, rfl⟩⟩

theorem bind {p : Prog Res ε α} {f : α → Prog Res ε β} (hp : Follows Ps p)
    (hf : ∀ a, Follows Qs (f a)) : Follows (Ps ++ Qs) (p.bind f) := by
  induction Ps generalizing p with
  | nil =>
    obtain ⟨a, rfl⟩ := hp
    exact hf a
  | cons P Ps ih =>
    obtain ⟨op, next, rfl, hop, hnext⟩ := hp
    exact ⟨op, _, rfl, hop, fun a => ih (hnext a)⟩

theorem handle {p : Prog Res ε α} (hp : Follows Ps p) (h : ε → Prog Res ε α) :
    Follows Ps (p.handle h) := by
  induction Ps generalizing p with
  | nil =>
    obtain ⟨a, rfl⟩ := hp
    exact ⟨a, rfl⟩
  | cons P Ps ih =>
    obtain ⟨op, next, rfl, hop, hnext⟩ := hp
    exact ⟨op, _, rfl, hop, fun a => ih (hnext a)⟩

theorem finally' {p : Prog Res ε α} {last : Prog Res ε Unit} (hp : Follows Ps p)
    (hlast : Follows Qs last) : Follows (Ps ++ Qs) (p.finally' last) := by
  induction Ps generalizing p with
  | nil =>
    obtain ⟨a, rfl⟩ := hp
    have hend := hlast.bind fun _ => Follows.ret a
    rwa [List.append_nil] at hend
  | cons P Ps ih =>
    obtain ⟨op, next, rfl, hop, hnext⟩ := hp
    exact ⟨op, _, rfl, hop, fun a => ih (hnext a)⟩

end Follows

section RunRules

variable (exec : σ → (op : Op) → Except ε (Res op) × σ)

/-- A state property every permitted call preserves is preserved by the program. -/
theorem run_invariant {P : Op → Prop} {I : σ → Prop}
    (step : ∀ op s, P op → I s → I (exec s op).2) {p : Prog Res ε α} (hp : p.Calls P) {s : σ}
    (hs : I s) : I (run exec p s).2 := by
  induction p generalizing s with
  | ret a => exact hs
  | raise e => exact hs
  | call op next ih => exact ih _ (hp.2 _) (step op s hp.1 hs)

section Frame

variable {P : Op → Prop} {f : σ → β} (hf : ∀ op s, P op → f (exec s op).2 = f s)

include hf

/-- What no permitted call changes, the program does not change. -/
theorem run_frame {p : Prog Res ε α} (hp : p.Calls P) (s : σ) : f (run exec p s).2 = f s :=
  run_invariant exec (I := fun t => f t = f s) (fun op t hop ht => (hf op t hop).trans ht) hp rfl

/-- What follows the first part leaves what the first part left. -/
theorem run_bind_frame {p : Prog Res ε α} {next : α → Prog Res ε γ}
    (hnext : ∀ a, (next a).Calls P) (s : σ) :
    f (run exec (p.bind next) s).2 = f (run exec p s).2 := by
  rw [run_bind]
  rcases run exec p s with ⟨e | a, t⟩
  · rfl
  · exact run_frame exec hf (hnext a) t

theorem run_handle_frame {p : Prog Res ε α} {h : ε → Prog Res ε α} (hh : ∀ e, (h e).Calls P)
    (s : σ) : f (run exec (p.handle h) s).2 = f (run exec p s).2 := by
  rw [run_handle]
  rcases run exec p s with ⟨e | a, t⟩
  · exact run_frame exec hf (hh e) t
  · rfl

end Frame

theorem of_mem_trace {P : Op → Prop} {p : Prog Res ε α} (hp : p.Calls P) {s : σ}
    {x : (op : Op) × Except ε (Res op)} (hx : x ∈ trace exec p s) : P x.1 := by
  induction p generalizing s with
  | ret a => cases hx
  | raise e => cases hx
  | call op next ih =>
    rcases List.mem_cons.mp hx with rfl | hx
    · exact hp.1
    · exact ih _ (hp.2 _) hx

/-- From related states the program answers alike, and ends in related states. -/
def Alike (R : σ → σ → Prop) (p : Prog Res ε α) : Prop :=
  ∀ s t, R s t → (run exec p s).1 = (run exec p t).1 ∧ R (run exec p s).2 (run exec p t).2

namespace Alike

variable {exec} {R : σ → σ → Prop}

theorem ret (a : α) : Alike exec R (ret a) := fun _ _ h => ⟨rfl, h⟩

theorem raise (e : ε) : Alike exec R (raise e : Prog Res ε α) := fun _ _ h => ⟨rfl, h⟩

theorem ofExcept (r : Except ε α) : Alike exec R (ofExcept r) := by
  cases r with
  | ok a => exact ret a
  | error e => exact raise e

theorem perform {op : Op} (h : ∀ s t, R s t →
    (exec s op).1 = (exec t op).1 ∧ R (exec s op).2 (exec t op).2) :
    Alike exec R (perform op) := by
  intro s t hst
  rw [run_perform, run_perform]
  exact h s t hst

theorem bind {p : Prog Res ε α} {f : α → Prog Res ε β} (hp : Alike exec R p)
    (hf : ∀ a, Alike exec R (f a)) : Alike exec R (p.bind f) := by
  intro s t hst
  obtain ⟨hres, hnext⟩ := hp s t hst
  rw [run_bind, run_bind]
  rcases hs : run exec p s with ⟨e | a, s'⟩ <;> rcases ht : run exec p t with ⟨e' | a', t'⟩ <;>
    rw [hs, ht] at hres hnext <;> cases hres
  · exact ⟨rfl, hnext⟩
  · exact hf a s' t' hnext

theorem handle {p : Prog Res ε α} {h : ε → Prog Res ε α} (hp : Alike exec R p)
    (hh : ∀ e, Alike exec R (h e)) : Alike exec R (p.handle h) := by
  intro s t hst
  obtain ⟨hres, hnext⟩ := hp s t hst
  rw [run_handle, run_handle]
  rcases hs : run exec p s with ⟨e | a, s'⟩ <;> rcases ht : run exec p t with ⟨e' | a', t'⟩ <;>
    rw [hs, ht] at hres hnext <;> cases hres
  · exact hh e s' t' hnext
  · exact ⟨rfl, hnext⟩

/-- Permitted calls that each answer alike. -/
theorem of_calls {P : Op → Prop} (step : ∀ op s t, P op → R s t →
    (exec s op).1 = (exec t op).1 ∧ R (exec s op).2 (exec t op).2)
    {p : Prog Res ε α} (hp : p.Calls P) : Alike exec R p := by
  intro s t hst
  induction p generalizing s t with
  | ret a => exact ⟨rfl, hst⟩
  | raise e => exact ⟨rfl, hst⟩
  | call op next ih =>
    obtain ⟨hres, hnext⟩ := step op s t hp.1 hst
    simp only [run_call, hres]
    exact ih _ (hp.2 _) _ _ hnext

end Alike

end RunRules

end Prog
