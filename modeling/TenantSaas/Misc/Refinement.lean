import Mathlib.Tactic.Common

/-!
# Components and what they are for

A specification says what each call does to an abstract state, and what it answers.  The calls of
a component may also raise; one that does has done nothing.
-/

namespace Refinement

variable {κ A ρ σ σ' ε ε' τ τ' : Type}

structure Spec (κ A ρ : Type) where
  effect : κ → A → A
  answer : κ → A → ρ

/-- The calls one after another, each with its answer, and the state after them. -/
def Spec.replay (spec : Spec κ A ρ) : List κ → A → List (κ × ρ) × A
  | [], a => ([], a)
  | call :: calls, a =>
    let after := spec.replay calls (spec.effect call a)
    ((call, spec.answer call a) :: after.1, after.2)

/-- The calls of a component one after another, each with what it came to. -/
def serveAll (run : κ → σ → Except ε τ × σ) : List κ → σ → List (κ × Except ε τ) × σ
  | [], s => ([], s)
  | call :: calls, s =>
    let after := serveAll run calls (run call s).2
    ((call, (run call s).1) :: after.1, after.2)

/-- The calls that returned, each with what it returned. -/
def returned : List (κ × Except ε τ) → List (κ × τ)
  | [] => []
  | (call, .ok answer) :: log => (call, answer) :: returned log
  | (_, .error _) :: log => returned log

/-- A component does what the specification says, for the calls `P` in the states `I`. -/
structure Refines (spec : Spec κ A ρ) (run : κ → σ → Except ε τ × σ) (abs : σ → A) (seen : τ → ρ)
    (P : κ → Prop) (I : A → Prop) : Prop where
  returns : ∀ {call s answer t}, P call → I (abs s) → run call s = (.ok answer, t) →
    seen answer = spec.answer call (abs s) ∧ abs t = spec.effect call (abs s)
  raises : ∀ {call s e t}, P call → run call s = (.error e, t) → abs t = abs s

section Serving

variable {spec : Spec κ A ρ} {run : κ → σ → Except ε τ × σ} {abs : σ → A} {seen : τ → ρ}
  {P : κ → Prop} {I : A → Prop} {calls : List κ} {s : σ}

theorem serveAll_cons (call : κ) {result : Except ε τ} {t : σ} (h : run call s = (result, t)) :
    serveAll run (call :: calls) s =
      ((call, result) :: (serveAll run calls t).1, (serveAll run calls t).2) := by
  rw [serveAll, h]

/-- A call that returned was made, in some state. -/
theorem mem_returned {x : κ × τ} (h : x ∈ returned (serveAll run calls s).1) :
    x.1 ∈ calls ∧ ∃ t u, run x.1 t = (.ok x.2, u) := by
  induction calls generalizing s with
  | nil => cases h
  | cons call calls ih =>
    rcases hrun : run call s with ⟨e | answer, t⟩
    · rw [serveAll_cons call hrun, returned] at h
      exact ⟨List.mem_cons_of_mem _ (ih h).1, (ih h).2⟩
    · rw [serveAll_cons call hrun, returned] at h
      rcases List.mem_cons.mp h with rfl | h
      · exact ⟨List.mem_cons_self, s, t, hrun⟩
      · exact ⟨List.mem_cons_of_mem _ (ih h).1, (ih h).2⟩

/-- What returned is what the specification answers when only those calls are made, and the state
is the one it leaves. -/
theorem Refines.serveAll (h : Refines spec run abs seen P I)
    (keeps : ∀ call a, P call → I a → I (spec.effect call a)) (hcalls : ∀ call ∈ calls, P call)
    (hs : I (abs s)) :
    let served := Refinement.serveAll run calls s
    spec.replay ((returned served.1).map Prod.fst) (abs s) =
      ((returned served.1).map (Prod.map id seen), abs served.2) := by
  induction calls generalizing s with
  | nil => rfl
  | cons call calls ih =>
    rw [List.forall_mem_cons] at hcalls
    rcases hrun : run call s with ⟨e | answer, t⟩
    · have hkept : abs t = abs s := h.raises hcalls.1 hrun
      rw [← hkept] at hs
      have hrest := ih hcalls.2 hs
      rw [hkept] at hrest
      rw [serveAll_cons call hrun]
      exact hrest
    · obtain ⟨hanswer, heffect⟩ := h.returns hcalls.1 hs hrun
      have hnext : I (abs t) := by
        rw [heffect]
        exact keeps call _ hcalls.1 hs
      have hrest := ih hcalls.2 hnext
      rw [heffect] at hrest
      rw [serveAll_cons call hrun]
      simp only [returned, List.map_cons, Spec.replay, hrest, ← hanswer]
      rfl

/-- Where no call raises, every call returns. -/
theorem serveAll_total (total : ∀ call s, P call → ∃ answer t, run call s = (.ok answer, t))
    (hcalls : ∀ call ∈ calls, P call) :
    (serveAll run calls s).1 =
        (returned (serveAll run calls s).1).map (Prod.map id Except.ok) ∧
      (returned (serveAll run calls s).1).map Prod.fst = calls := by
  induction calls generalizing s with
  | nil => exact ⟨rfl, rfl⟩
  | cons call calls ih =>
    rw [List.forall_mem_cons] at hcalls
    obtain ⟨answer, t, hrun⟩ := total call s hcalls.1
    obtain ⟨hlog, hfst⟩ := ih (s := t) hcalls.2
    rw [serveAll_cons call hrun]
    rw [returned, List.map_cons, List.map_cons, hfst]
    exact ⟨congrArg _ hlog, rfl⟩

end Serving

/-- Two components with one specification, of which the second does not raise: the calls that
returned from the one return the same from the other, and leave it in the same state. -/
theorem replays {spec : Spec κ A ρ} {run : κ → σ → Except ε τ × σ}
    {run' : κ → σ' → Except ε' τ' × σ'} {abs : σ → A} {abs' : σ' → A} {seen : τ → ρ}
    {seen' : τ' → ρ} {P P' : κ → Prop} {I : A → Prop} {calls : List κ} {s : σ} {s' : σ'}
    (h : Refines spec run abs seen P I) (h' : Refines spec run' abs' seen' P' I)
    (keeps : ∀ call a, P call → I a → I (spec.effect call a))
    (permitted : ∀ {call s answer t}, P call → run call s = (.ok answer, t) → P' call)
    (total : ∀ call s, P' call → ∃ answer t, run' call s = (.ok answer, t))
    (implies : ∀ call, P' call → P call) (hcalls : ∀ call ∈ calls, P call) (hs : I (abs s))
    (hsame : abs' s' = abs s) :
    let served := serveAll run calls s
    let served' := serveAll run' ((returned served.1).map Prod.fst) s'
    served'.1.map (Prod.map id (Except.map seen')) =
        (returned served.1).map (Prod.map id fun answer => .ok (seen answer)) ∧
      abs' served'.2 = abs served.2 := by
  intro served served'
  have hdone : ∀ call ∈ (returned served.1).map Prod.fst, P' call := by
    intro call hcall
    obtain ⟨x, hx, rfl⟩ := List.mem_map.mp hcall
    obtain ⟨hmem, t, u, hrun⟩ := mem_returned hx
    exact permitted (hcalls _ hmem) hrun
  have hreplay := h.serveAll keeps hcalls hs
  have hreplay' := h'.serveAll (fun call a hcall => keeps call a (implies call hcall)) hdone
    (hsame ▸ hs)
  obtain ⟨hlog, hfst⟩ := serveAll_total (s := s') total hdone
  change spec.replay ((returned served'.1).map Prod.fst) (abs' s') = _ at hreplay'
  rw [hfst, hsame, hreplay] at hreplay'
  obtain ⟨hanswers, hstate⟩ := Prod.mk.inj hreplay'
  refine ⟨?_, hstate.symm⟩
  change served'.1 = (returned served'.1).map _ at hlog
  rw [hlog, List.map_map]
  have hok := congrArg (List.map (Prod.map id (Except.ok : ρ → Except ε' ρ))) hanswers.symm
  rw [List.map_map, List.map_map] at hok
  exact hok

end Refinement
