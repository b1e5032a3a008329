import TenantSaas.Misc.Always
import Mathlib.Logic.Function.Basic

/-!
# State kept in a cookie

A client sends requests to a server that keeps the client's state in one cookie.  Requests are
served at the same time, call by call, each with the cookie the client had when it was sent; what
a response leaves of it replaces the cookie, in any order.
-/

namespace CookieJar

variable {Op : Type} {Res : Op → Type} {ε σ R ι : Type}

/-- The calls made for a request so far, as they were answered. -/
abbrev CallLog (Res : Op → Type) (ε : Type) := List ((op : Op) × Except ε (Res op))

/-- A request: the state it carried, its state now, the calls made for it, and what is left to
do. -/
structure Visit (Res : Op → Type) (ε σ R : Type) where
  request : R
  carried : σ
  state : σ
  calls : CallLog Res ε
  rest : Prog Res ε Unit

/-- The request has its response. -/
def Visit.Done (visit : Visit Res ε σ R) : Prop := ∀ op next, visit.rest ≠ .call op next

/-- A client, with its requests under the names of `ι`. -/
structure Jar (Res : Op → Type) (ε σ R ι : Type) where
  cookie : σ
  visits : ι → Option (Visit Res ε σ R)

/-- A state the client has, had when it sent a request, or is sent in a response. -/
def Jar.Holds (jar : Jar Res ε σ R ι) (state : σ) : Prop :=
  state = jar.cookie ∨ ∃ i visit, jar.visits i = some visit ∧
    (state = visit.carried ∨ visit.Done ∧ state = visit.state)

/-- Request `i` is now as `visit`. -/
def Jar.put [DecidableEq ι] (jar : Jar Res ε σ R ι) (i : ι) (visit : Visit Res ε σ R) :
    Jar Res ε σ R ι :=
  { jar with visits := Function.update jar.visits i (some visit) }

theorem Jar.visits_put [DecidableEq ι] (jar : Jar Res ε σ R ι) (i j : ι)
    (visit : Visit Res ε σ R) :
    (jar.put i visit).visits j = if j = i then some visit else jar.visits j :=
  Function.update_apply jar.visits i (some visit) j

/-- A client that starts with `init`. -/
inductive Run [DecidableEq ι] (env : Prog.Env Res ε σ) (prog : R → Prog Res ε Unit) (init : σ) :
    Jar Res ε σ R ι → Prop where
  | start : Run env prog init ⟨init, fun _ => none⟩
  | send {jar : Jar Res ε σ R ι} (run : Run env prog init jar) (i : ι) (request : R)
      (unused : jar.visits i = none) :
      Run env prog init (jar.put i ⟨request, jar.cookie, jar.cookie, [], prog request⟩)
  | call {jar : Jar Res ε σ R ι} (run : Run env prog init jar) (i : ι) (visit : Visit Res ε σ R)
      (here : jar.visits i = some visit) (op : Op) (next : Except ε (Res op) → Prog Res ε Unit)
      (rest : visit.rest = .call op next) (answer : Except ε (Res op)) (state : σ)
      (answers : env visit.state op answer state) :
      Run env prog init (jar.put i { visit with
        state := state
        calls := visit.calls ++ [⟨op, answer⟩]
        rest := next answer })
  | receive {jar : Jar Res ε σ R ι} (run : Run env prog init jar) (i : ι)
      (visit : Visit Res ε σ R) (here : jar.visits i = some visit) (done : visit.Done) :
      Run env prog init { jar with cookie := visit.state }

/-- A state with the calls so far. -/
def recorded (env : Prog.Env Res ε σ) : Prog.Env Res ε (σ × CallLog Res ε) := fun s op r t =>
  env s.1 op r t.1 ∧ t.2 = s.2 ++ [⟨op, r⟩]

/-- What holds however the calls are answered holds while they are recorded, and the record only
grows. -/
theorem always_recorded {α : Type} {env : Prog.Env Res ε σ} {E : σ → Op → Prop}
    {Q : Except ε α → σ → Prop} {p : Prog Res ε α} {s : σ × CallLog Res ε}
    (h : p.Always env E Q s.1) :
    p.Always (recorded env) (fun t op => E t.1 op ∧ s.2 ⊆ t.2)
      (fun r t => Q r t.1 ∧ s.2 ⊆ t.2) s := by
  induction p generalizing s with
  | ret a => exact ⟨h, List.Subset.refl _⟩
  | raise e => exact ⟨h, List.Subset.refl _⟩
  | call op next ih =>
    refine ⟨⟨h.1, List.Subset.refl _⟩, fun r t hrt => ?_⟩
    have hgrown : s.2 ⊆ t.2 := by
      rw [hrt.2]
      exact List.subset_append_left _ _
    refine (ih r (h.2 r t.1 hrt.1)).mono (fun _ _ hu => ?_) fun _ _ hu => ?_
    · exact ⟨hu.1, List.Subset.trans hgrown hu.2⟩
    · exact ⟨hu.1, List.Subset.trans hgrown hu.2⟩

/-! ## What holds of the requests of a run -/

section Requests

variable [DecidableEq ι] {env : Prog.Env Res ε σ} {prog : R → Prog Res ε Unit} {init : σ}
  {jar : Jar Res ε σ R ι}

/-- What holds of a request when it is sent, and goes on to hold with each answer, holds of all
requests. -/
theorem forall_visits {I : Visit Res ε σ R → Prop}
    (sent : ∀ request cookie, I ⟨request, cookie, cookie, [], prog request⟩)
    (answered : ∀ visit op next answer state, I visit → visit.rest = .call op next →
      env visit.state op answer state → I { visit with
        state := state
        calls := visit.calls ++ [⟨op, answer⟩]
        rest := next answer })
    (run : Run env prog init jar) : ∀ i visit, jar.visits i = some visit → I visit := by
  induction run with
  | start =>
    rintro i visit ⟨⟩
  | @send jar run i request unused ih =>
    intro j visit hvisit
    rw [Jar.visits_put] at hvisit
    split at hvisit
    · cases hvisit
      exact sent request jar.cookie
    · exact ih j visit hvisit
  | call run i visit here op next rest answer state answers ih =>
    intro j new hnew
    rw [Jar.visits_put] at hnew
    split at hnew
    · cases hnew
      exact answered visit op next answer state (ih i visit here) rest answers
    · exact ih j new hnew
  | receive run i visit here done ih => exact ih

/-- What a program may do and leave at every point, it may after each answer. -/
theorem always_answered {α : Type} {E : σ × CallLog Res ε → Op → Prop}
    {Q : Except ε α → σ × CallLog Res ε → Prop} {p : Prog Res ε α} {op : Op}
    {next : Except ε (Res op) → Prog Res ε α} {s t : σ} {calls : CallLog Res ε}
    {answer : Except ε (Res op)} (h : p.Always (recorded env) E Q (s, calls))
    (rest : p = .call op next) (answers : env s op answer t) :
    E (s, calls) op ∧ (next answer).Always (recorded env) E Q (t, calls ++ [⟨op, answer⟩]) := by
  rw [rest] at h
  exact ⟨h.1, h.2 answer (t, _) ⟨answers, rfl⟩⟩

/-- If requests make only calls that they may make after the ones before, then so they have in a
run. -/
theorem permitted {E : R → σ → CallLog Res ε → Op → Prop}
    (grows : ∀ request carried calls call op, E request carried calls op →
      E request carried (calls ++ [call]) op)
    (requests : ∀ request carried, (prog request).Always (recorded env)
      (fun t op => E request carried t.2 op) (fun _ _ => True) (carried, []))
    (run : Run env prog init jar) : ∀ i visit, jar.visits i = some visit →
      ∀ call ∈ visit.calls, E visit.request visit.carried visit.calls call.1 := by
  have hvisits : ∀ i visit, jar.visits i = some visit →
      (visit.rest.Always (recorded env)
        (fun t op => E visit.request visit.carried t.2 op) (fun _ _ => True)
        (visit.state, visit.calls)) ∧
      ∀ call ∈ visit.calls, E visit.request visit.carried visit.calls call.1 := by
    refine forall_visits (fun request cookie => ⟨requests request cookie, nofun⟩) ?_ run
    intro visit op next answer state h rest answers
    obtain ⟨hahead, hmade⟩ := h
    obtain ⟨hop, hnext⟩ := always_answered hahead rest answers
    refine ⟨hnext, fun call hcall => grows _ _ _ _ _ ?_⟩
    rcases List.mem_append.mp hcall with hcall | hcall
    · exact hmade call hcall
    · obtain rfl := List.mem_singleton.mp hcall
      exact hop
  exact fun i visit hvisit => (hvisits i visit hvisit).2

/-- What requests leave, they have left when they are done. -/
theorem left {L : R → σ → σ × CallLog Res ε → Prop}
    (requests : ∀ request carried, (prog request).Always (recorded env) (fun _ _ => True)
      (fun _ t => L request carried t) (carried, []))
    (run : Run env prog init jar) : ∀ i visit, jar.visits i = some visit → visit.Done →
      L visit.request visit.carried (visit.state, visit.calls) := by
  have hvisits : ∀ i visit, jar.visits i = some visit →
      visit.rest.Always (recorded env) (fun _ _ => True)
        (fun _ t => L visit.request visit.carried t) (visit.state, visit.calls) := by
    refine forall_visits requests ?_ run
    intro visit op next answer state hahead rest answers
    exact (always_answered hahead rest answers).2
  intro i visit hvisit done
  have hrest := hvisits i visit hvisit
  cases hprog : visit.rest with
  | ret a => rwa [hprog] at hrest
  | raise e => rwa [hprog] at hrest
  | call op next => exact absurd hprog (done op next)

end Requests

/-! ## Where states come from -/

/-- How states come of each other: from one that was carried, or from one that a request has made
out of the answers to its calls. -/
structure Origins (R : Type) (Res : Op → Type) (ε σ : Type) where
  Comes : σ → σ → Prop
  Made : R → CallLog Res ε → σ → Prop
  refl : ∀ s, Comes s s
  trans : ∀ s t u, Comes s t → Comes t u → Comes s u
  grows : ∀ request calls call s, Made request calls s → Made request (calls ++ [call]) s

namespace Origins

variable (origins : Origins R Res ε σ)

/-- What a request leaves comes from what it carried, or from what it has made. -/
def Leaves (request : R) (carried : σ) (s : σ × CallLog Res ε) : Prop :=
  origins.Comes carried s.1 ∨ ∃ u, origins.Made request s.2 u ∧ origins.Comes u s.1

/-- A state of the client comes from the first, or from one that a request of the client has
made. -/
def Traced (init : σ) (jar : Jar Res ε σ R ι) (state : σ) : Prop :=
  origins.Comes init state ∨ ∃ i visit u, jar.visits i = some visit ∧
    origins.Made visit.request visit.calls u ∧ origins.Comes u state

variable {origins} {init : σ} {jar jar' : Jar Res ε σ R ι} {state : σ}

theorem Traced.comes {state' : σ} (h : origins.Traced init jar state)
    (hcomes : origins.Comes state state') : origins.Traced init jar state' := by
  rcases h with h | ⟨i, visit, u, hvisit, hmade, h⟩
  · exact .inl (origins.trans _ _ _ h hcomes)
  · exact .inr ⟨i, visit, u, hvisit, hmade, origins.trans _ _ _ h hcomes⟩

/-- A request stays known, with what it has made. -/
theorem Traced.mono (h : origins.Traced init jar state)
    (hvisits : ∀ i visit, jar.visits i = some visit → ∃ visit', jar'.visits i = some visit' ∧
      ∀ u, origins.Made visit.request visit.calls u → origins.Made visit'.request visit'.calls u) :
    origins.Traced init jar' state := by
  rcases h with h | ⟨i, visit, u, hvisit, hmade, h⟩
  · exact .inl h
  · obtain ⟨visit', hvisit', hmore⟩ := hvisits i visit hvisit
    exact .inr ⟨i, visit', u, hvisit', hmore u hmade, h⟩

variable (origins) in
/-- What holds of a client at any time. -/
structure Kept (init : σ) (jar : Jar Res ε σ R ι) : Prop where
  cookie : origins.Traced init jar jar.cookie
  carried : ∀ i visit, jar.visits i = some visit → origins.Traced init jar visit.carried

/-- A response brings a state of the client. -/
theorem Kept.traced_left (h : origins.Kept init jar) {i : ι} {visit : Visit Res ε σ R}
    (here : jar.visits i = some visit)
    (leaves : origins.Leaves visit.request visit.carried (visit.state, visit.calls)) :
    origins.Traced init jar visit.state := by
  rcases leaves with hcomes | ⟨u, hmade, hcomes⟩
  · exact (h.carried i visit here).comes hcomes
  · exact .inr ⟨i, visit, u, here, hmade, hcomes⟩

/-- A client takes the state of a response. -/
theorem Kept.receive (h : origins.Kept init jar) {state : σ}
    (traced : origins.Traced init jar state) :
    origins.Kept init { jar with cookie := state } where
  cookie := traced
  carried := h.carried

variable [DecidableEq ι]

/-- A request goes on, or is sent. -/
theorem Kept.put (h : origins.Kept init jar) {i : ι} {new : Visit Res ε σ R}
    (made : ∀ old, jar.visits i = some old →
      ∀ u, origins.Made old.request old.calls u → origins.Made new.request new.calls u)
    (carried : origins.Traced init jar new.carried) : origins.Kept init (jar.put i new) := by
  have hvisits : ∀ j visit, jar.visits j = some visit → ∃ visit',
      (jar.put i new).visits j = some visit' ∧ ∀ u, origins.Made visit.request visit.calls u →
        origins.Made visit'.request visit'.calls u := by
    intro j visit hvisit
    rw [Jar.visits_put]
    by_cases hj : j = i
    · rw [hj] at hvisit
      exact ⟨new, if_pos hj, made visit hvisit⟩
    · exact ⟨visit, (if_neg hj).trans hvisit, fun _ => id⟩
  refine ⟨h.cookie.mono hvisits, fun j visit hvisit => ?_⟩
  rw [Jar.visits_put] at hvisit
  split at hvisit
  · cases hvisit
    exact carried.mono hvisits
  · exact (h.carried j visit hvisit).mono hvisits

variable {env : Prog.Env Res ε σ} {prog : R → Prog Res ε Unit}
  (requests : ∀ request carried, (prog request).Always (recorded env) (fun _ _ => True)
    (fun _ t => origins.Leaves request carried t) (carried, []))

include requests

theorem kept (run : Run env prog init jar) : origins.Kept init jar := by
  induction run with
  | start => exact ⟨.inl (origins.refl _), by rintro i visit ⟨⟩⟩
  | @send jar run i request unused ih =>
    refine ih.put (fun old hold => ?_) ih.cookie
    rw [unused] at hold
    cases hold
  | call run i visit here op next rest answer state answers ih =>
    refine ih.put (fun old hold u => ?_) (ih.carried i visit here)
    rw [here] at hold
    cases hold
    exact origins.grows _ _ _ u
  | receive run i visit here done ih =>
    exact ih.receive (ih.traced_left here (left requests run i visit here done))

/-- If every request leaves a state that comes from what it carried or from what it has made, every
state a client ever has comes from the first or from what one of its requests has made. -/
theorem traced (run : Run env prog init jar) (held : jar.Holds state) :
    origins.Traced init jar state := by
  have hkept := kept requests run
  rcases held with rfl | ⟨i, visit, here, rfl | ⟨done, rfl⟩⟩
  · exact hkept.cookie
  · exact hkept.carried i visit here
  · exact hkept.traced_left here (left requests run i visit here done)

end Origins

end CookieJar
