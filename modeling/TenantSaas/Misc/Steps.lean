import Mathlib.Tactic.Common

/-!
# Runs of a labelled step relation

A run records the state before each of its steps.
-/

namespace Steps

variable {σ ℓ : Type}

/-- The steps of a run, each with the state it started from. -/
abbrev Trace (σ ℓ : Type) := List (σ × ℓ)

inductive Run (Step : σ → ℓ → σ → Prop) (init : σ) : Trace σ ℓ → σ → Prop where
  | nil : Run Step init [] init
  | snoc {trace : Trace σ ℓ} {s t : σ} {label : ℓ} (run : Run Step init trace s)
      (step : Step s label t) : Run Step init (trace ++ [(s, label)]) t

section Runs

variable {Step : σ → ℓ → σ → Prop} {init s t : σ} {trace rest : Trace σ ℓ}

theorem Run.append (run : Run Step init trace s) (more : Run Step s rest t) :
    Run Step init (trace ++ rest) t := by
  induction more with
  | nil => rwa [List.append_nil]
  | snoc more step ih =>
    rw [← List.append_assoc]
    exact ih.snoc step

/-- What relates the ends of every permitted step relates the ends of a run of them. -/
theorem Run.relates {R : σ → σ → Prop} (refl : ∀ s, R s s) (trans : ∀ s t u, R s t → R t u → R s u)
    {P : σ → ℓ → Prop} (step : ∀ s label t, P s label → Step s label t → R s t)
    (run : Run Step init trace s) (hall : ∀ x ∈ trace, P x.1 x.2) : R init s := by
  induction run with
  | nil => exact refl init
  | @snoc trace s t label run hstep ih =>
    have hlabel := hall (s, label) (by simp)
    refine trans init s t (ih fun x hx => hall x (List.mem_append_left _ hx)) ?_
    exact step s label t hlabel hstep

/-- A log to which every step adds what it shows has in the end what the trace shows. -/
theorem Run.collects {α : Type} {f : σ → List α} {g : σ × ℓ → List α}
    (step : ∀ s label t, Step s label t → f t = f s ++ g (s, label))
    (run : Run Step init trace s) : f s = f init ++ trace.flatMap g := by
  induction run with
  | nil => simp
  | snoc run hstep ih => simp [step _ _ _ hstep, ih]

/-- An invariant of the permitted steps holds as long as all are permitted.  The first other
step leads where the run stays from then on. -/
theorem Run.split {P : σ → ℓ → Prop} {I : Trace σ ℓ → σ → Prop} {D : σ → Prop}
    (step : ∀ trace s label t, I trace s → P s label → Step s label t →
      I (trace ++ [(s, label)]) t)
    (fall : ∀ trace s label t, I trace s → ¬ P s label → Step s label t → D t)
    (stay : ∀ s label t, D s → Step s label t → D t)
    (run : Run Step init trace s) (hinit : I [] init) :
    ((∀ x ∈ trace, P x.1 x.2) ∧ I trace s) ∨
      ((∃ x ∈ trace, ¬ P x.1 x.2) ∧ D s) := by
  induction run with
  | nil => exact .inl ⟨fun x hx => (by cases hx), hinit⟩
  | @snoc trace s t label run hstep ih =>
    rcases ih with ⟨hall, hI⟩ | ⟨⟨x, hx, hnot⟩, hD⟩
    · by_cases hlabel : P s label
      · refine .inl ⟨fun x hx => ?_, step trace s label t hI hlabel hstep⟩
        rcases List.mem_append.mp hx with hx | hx
        · exact hall x hx
        · obtain rfl := List.mem_singleton.mp hx
          exact hlabel
      · exact .inr ⟨⟨(s, label), by simp, hlabel⟩, fall trace s label t hI hlabel hstep⟩
    · exact .inr ⟨⟨x, List.mem_append_left _ hx, hnot⟩, stay s label t hD hstep⟩

end Runs

/-- What the last step with such a label shows. -/
def last {β : Type} (f : ℓ → Option β) (trace : Trace σ ℓ) : Option β :=
  (trace.filterMap fun x => f x.2).getLast?

section Last

variable {β : Type} {f : ℓ → Option β} {trace : Trace σ ℓ} {s : σ} {label : ℓ}

theorem last_snoc {b : β} (h : f label = some b) : last f (trace ++ [(s, label)]) = some b := by
  simp [last, List.filterMap_append, h]

theorem last_snoc_none (h : f label = none) : last f (trace ++ [(s, label)]) = last f trace := by
  simp [last, List.filterMap_append, h]

theorem last_ne_none {x : σ × ℓ} (hx : x ∈ trace) {b : β} (h : f x.2 = some b) :
    last f trace ≠ none := by
  intro hnone
  rw [last, List.getLast?_eq_none_iff, List.filterMap_eq_nil_iff] at hnone
  rw [hnone x hx] at h
  cases h

end Last

end Steps
