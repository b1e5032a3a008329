import TenantSaas.Misc.CookieJar
import TenantSaas.Misc.Steps

/-!
# Programs on a store in parts

Programs run at the same time, call by call.  A call is about one part of a store, which answers
it in its own way, or about none, and may then be answered in any way.  Programs that keep to some
parts of the store do not notice the programs that keep to the others.
-/

namespace Prog

open CookieJar (CallLog)

variable {Op : Type} {Res : Op → Type} {ε α β : Type}

/-- Answered as recorded, the program ends with a result. -/
inductive Ends : Prog Res ε α → CallLog Res ε → Except ε α → Prop where
  | ret (a : α) : Ends (.ret a) [] (.ok a)
  | raise (e : ε) : Ends (.raise e) [] (.error e)
  | call (op : Op) (next : Except ε (Res op) → Prog Res ε α) (answer : Except ε (Res op))
      {log : CallLog Res ε} {r : Except ε α} (h : Ends (next answer) log r) :
      Ends (.call op next) (⟨op, answer⟩ :: log) r

namespace Ends

variable {p : Prog Res ε α} {f : α → Prog Res ε β} {log log' whole : CallLog Res ε}
  {r r' : Except ε α}

theorem perform (op : Op) (a : Res op) :
    (Prog.perform op : Prog Res ε (Res op)).Ends [⟨op, .ok a⟩] (.ok a) :=
  .call op _ (.ok a) (.ret a)

theorem bind_ok {a : α} {result : Except ε β} (h : p.Ends log (.ok a))
    (h' : (f a).Ends log' result) : (p.bind f).Ends (log ++ log') result := by
  generalize hr : Except.ok a = r at h
  induction h with
  | ret b =>
    cases hr
    exact h'
  | raise e => cases hr
  | call op next answer _ ih => exact .call op _ answer (ih hr)

/-- One record answers a program in one way. -/
theorem unique (h : p.Ends log r) (h' : p.Ends log' r') (hlog : log <+: whole)
    (hlog' : log' <+: whole) : r = r' := by
  induction h generalizing log' whole with
  | ret a =>
    cases h'
    rfl
  | raise e =>
    cases h'
    rfl
  | call op next answer _ ih =>
    cases h' with
    | call _ _ answer' hnext =>
      obtain ⟨rest, rfl⟩ := hlog
      obtain ⟨hhead, htail⟩ := List.cons_prefix_cons.mp hlog'
      cases hhead
      exact ih hnext (List.prefix_append _ rest) htail

end Ends

/-- Any answers, which are recorded. -/
def logged : Env Res ε (CallLog Res ε) := fun log op answer log' => log' = log ++ [⟨op, answer⟩]

/-- A program ends as the record of its calls says. -/
theorem always_ends {p : Prog Res ε α} {log : CallLog Res ε} :
    p.Always logged (fun _ _ => True) (fun r t => ∃ calls, t = log ++ calls ∧ p.Ends calls r)
      log := by
  induction p generalizing log with
  | ret a => exact ⟨[], (List.append_nil log).symm, .ret a⟩
  | raise e => exact ⟨[], (List.append_nil log).symm, .raise e⟩
  | call op next ih =>
    refine ⟨trivial, ?_⟩
    rintro answer _ rfl
    refine (ih answer).mono (fun _ _ h => h) fun r t ht => ?_
    obtain ⟨calls, rfl, hends⟩ := ht
    exact ⟨⟨op, answer⟩ :: calls, by simp, .call op next answer hends⟩

end Prog

namespace SharedStore

open CookieJar (CallLog)

variable {Op : Type} {Res : Op → Type} {ε α κ τ ι : Type}

/-- A store in parts `κ`, each in one of the states `τ`, used by programs `ι`. -/
structure Store (Res : Op → Type) (ε κ τ ι : Type) where
  /-- The part a call is about; this may depend on what the program has done before. -/
  about : CallLog Res ε → Op → Option κ
  /-- What the part may answer the program, and how it is left.  A part that lets a call wait
  answers nothing. -/
  answers : κ → ι → Prog.Env Res ε τ

/-- The store, and for each program its calls so far and what is left of it. -/
structure Threads (Res : Op → Type) (ε α κ τ ι : Type) where
  parts : κ → τ
  calls : ι → CallLog Res ε
  rest : ι → Prog Res ε α

/-- A call, who made it and how it was answered. -/
structure SharedCall (Res : Op → Type) (ε ι : Type) where
  caller : ι
  op : Op
  answer : Except ε (Res op)

section Alike

variable {kept : ι → Prop} {own : κ → Prop} {s t : Threads Res ε α κ τ ι}

/-- The states are alike in the parts `own`, and to the programs `kept`. -/
structure Alike (kept : ι → Prop) (own : κ → Prop) (s t : Threads Res ε α κ τ ι) : Prop where
  parts : ∀ k, own k → s.parts k = t.parts k
  calls : ∀ i, kept i → s.calls i = t.calls i
  rest : ∀ i, kept i → s.rest i = t.rest i

theorem Alike.refl (s : Threads Res ε α κ τ ι) : Alike kept own s s :=
  ⟨fun _ _ => rfl, fun _ _ => rfl, fun _ _ => rfl⟩

theorem Alike.symm (h : Alike kept own s t) : Alike kept own t s :=
  ⟨fun k hk => (h.parts k hk).symm, fun i hi => (h.calls i hi).symm,
    fun i hi => (h.rest i hi).symm⟩

end Alike

section Runs

variable [DecidableEq κ] {store : Store Res ε κ τ ι} {kept : ι → Prop} {own : κ → Prop}
  {init final s t s' : Threads Res ε α κ τ ι} {call : SharedCall Res ε ι}
  {trace : Steps.Trace (Threads Res ε α κ τ ι) (SharedCall Res ε ι)}

/-- The parts of the store after a call about one of them, or about none. -/
inductive PartAnswers (store : Store Res ε κ τ ι) (parts : κ → τ) (call : SharedCall Res ε ι) :
    Option κ → (κ → τ) → Prop where
  | elsewhere : PartAnswers store parts call none parts
  | part (k : κ) (t : τ) (h : store.answers k call.caller (parts k) call.op call.answer t) :
      PartAnswers store parts call (some k) (Function.update parts k t)

/-- A part that is alike answers alike. -/
theorem Alike.answers (h : Alike kept own s t) {place : Option κ} {parts : κ → τ}
    (hown : ∀ k, place = some k → own k) (answered : PartAnswers store s.parts call place parts) :
    ∃ parts', PartAnswers store t.parts call place parts' ∧ ∀ k, own k → parts k = parts' k := by
  cases answered with
  | elsewhere => exact ⟨t.parts, .elsewhere, h.parts⟩
  | part k u hanswers =>
    rw [h.parts k (hown k rfl)] at hanswers
    refine ⟨_, .part k u hanswers, fun j hj => ?_⟩
    by_cases hjk : j = k
    · subst hjk
      simp
    · simp [Function.update_of_ne hjk, h.parts j hj]

variable [DecidableEq ι]

/-- One of the programs makes its next call. -/
inductive Step (store : Store Res ε κ τ ι) :
    Threads Res ε α κ τ ι → SharedCall Res ε ι → Threads Res ε α κ τ ι → Prop where
  | call (s : Threads Res ε α κ τ ι) (i : ι) (op : Op) (next : Except ε (Res op) → Prog Res ε α)
      (rest : s.rest i = .call op next) (answer : Except ε (Res op)) (parts : κ → τ)
      (answered : PartAnswers store s.parts ⟨i, op, answer⟩ (store.about (s.calls i) op) parts) :
      Step store s ⟨i, op, answer⟩
        ⟨parts, Function.update s.calls i (s.calls i ++ [⟨op, answer⟩]),
          Function.update s.rest i (next answer)⟩

/-! ## What every program keeps to -/

theorem Step.calls_so_far (h : Step store s call t) (i : ι) : s.calls i <+: t.calls i := by
  obtain ⟨j, op, next, rest, answer, parts, answered⟩ := h
  by_cases hi : i = j
  · subst hi
    simp
  · simp [Function.update_of_ne hi]

theorem calls_so_far (run : Steps.Run (Step store) init trace final) {x} (hx : x ∈ trace) (i : ι) :
    x.1.calls i <+: final.calls i := by
  induction run with
  | nil => cases hx
  | snoc run step ih =>
    rcases List.mem_append.mp hx with hx | hx
    · exact (ih hx).trans (step.calls_so_far i)
    · obtain rfl := List.mem_singleton.mp hx
      exact step.calls_so_far i

/-- What is left of each program makes its calls where they are permitted. -/
def Obeys (E : ι → CallLog Res ε → Op → Prop) (s : Threads Res ε α κ τ ι) : Prop :=
  ∀ i, (s.rest i).Always Prog.logged (E i) (fun _ _ => True) (s.calls i)

section Obeys

variable {E : ι → CallLog Res ε → Op → Prop}

theorem Obeys.step (h : Obeys E s) (hstep : Step store s call t) :
    E call.caller (s.calls call.caller) call.op ∧ Obeys E t := by
  obtain ⟨i, op, next, rest, answer, parts, answered⟩ := hstep
  have hi := h i
  rw [rest] at hi
  refine ⟨hi.1, fun j => ?_⟩
  by_cases hj : j = i
  · subst hj
    simp only [Function.update_self]
    exact hi.2 answer _ rfl
  · simp only [Function.update_of_ne hj]
    exact h j

/-- In a run of such programs each call is permitted where it is made. -/
theorem Obeys.run (h : Obeys E init) (run : Steps.Run (Step store) init trace final) :
    (∀ x ∈ trace, E x.2.caller (x.1.calls x.2.caller) x.2.op) ∧ Obeys E final := by
  induction run with
  | nil => exact ⟨by rintro x ⟨⟩, h⟩
  | snoc run step ih =>
    obtain ⟨hcall, hnext⟩ := ih.2.step step
    refine ⟨fun x hx => ?_, hnext⟩
    rcases List.mem_append.mp hx with hx | hx
    · exact ih.1 x hx
    · obtain rfl := List.mem_singleton.mp hx
      exact hcall

end Obeys

/-! ## Leaving programs out -/

/-- What a kept program does in the one state it can do in the other. -/
theorem Alike.step (h : Alike kept own s t) (hstep : Step store s call s')
    (hkept : kept call.caller)
    (hown : ∀ k, store.about (s.calls call.caller) call.op = some k → own k) :
    ∃ t', Step store t call t' ∧ Alike kept own s' t' := by
  obtain ⟨i, op, next, rest, answer, parts, answered⟩ := hstep
  obtain ⟨parts', hanswered, hparts⟩ := h.answers hown answered
  rw [h.calls i hkept] at hanswered
  refine ⟨_, .call t i op next ((h.rest i hkept).symm.trans rest) answer parts' hanswered,
    hparts, fun j hj => ?_, fun j hj => ?_⟩
  · by_cases hji : j = i
    · subst hji
      simp [h.calls j hj]
    · simp [Function.update_of_ne hji, h.calls j hj]
  · by_cases hji : j = i
    · subst hji
      simp
    · simp [Function.update_of_ne hji, h.rest j hj]

/-- What another program does in the one state is not seen from the other. -/
theorem Alike.other (h : Alike kept own s t) (hstep : Step store s call s')
    (hother : ¬ kept call.caller)
    (hown : ∀ k, store.about (s.calls call.caller) call.op = some k → ¬ own k) :
    Alike kept own s' t := by
  obtain ⟨i, op, next, rest, answer, parts, answered⟩ := hstep
  have hne : ∀ j, kept j → j ≠ i := by
    rintro j hj rfl
    exact hother hj
  refine ⟨fun k hk => ?_, fun j hj => ?_, fun j hj => ?_⟩
  · generalize hplace : store.about (s.calls i) op = place at answered
    cases answered with
    | elsewhere => exact h.parts k hk
    | part k' u hanswers =>
      have hkk' : k ≠ k' := by
        rintro rfl
        exact hown k hplace hk
      exact (Function.update_of_ne hkk' u s.parts).trans (h.parts k hk)
  · simp [Function.update_of_ne (hne j hj), h.calls j hj]
  · simp [Function.update_of_ne (hne j hj), h.rest j hj]

open Classical in
/-- When the kept programs keep to their own parts and the others to the others, a run can be made
without the others: the kept programs make the calls they made, are answered as they were, and
leave their parts as they left them. -/
theorem erase (run : Steps.Run (Step store) init trace final)
    (hkept : ∀ x ∈ trace, kept x.2.caller →
      ∀ k, store.about (x.1.calls x.2.caller) x.2.op = some k → own k)
    (hothers : ∀ x ∈ trace, ¬ kept x.2.caller →
      ∀ k, store.about (x.1.calls x.2.caller) x.2.op = some k → ¬ own k) :
    ∃ trace' final', Steps.Run (Step store) init trace' final' ∧
      trace'.map Prod.snd = (trace.map Prod.snd).filter (fun call => kept call.caller) ∧
      Alike kept own final final' := by
  induction run with
  | nil => exact ⟨[], init, .nil, rfl, .refl init⟩
  | @snoc trace s t call run step ih =>
    obtain ⟨trace', s', run', hcalls, halike⟩ := ih
      (fun x hx => hkept x (List.mem_append_left _ hx))
      (fun x hx => hothers x (List.mem_append_left _ hx))
    have hlast : (s, call) ∈ trace ++ [(s, call)] := by simp
    by_cases h : kept call.caller
    · obtain ⟨t', step', halike'⟩ := halike.step step h (hkept _ hlast h)
      refine ⟨trace' ++ [(s', call)], t', run'.snoc step', ?_, halike'⟩
      simp [hcalls, h]
    · refine ⟨trace', s', run', ?_, halike.other step h (hothers _ hlast h)⟩
      simp [hcalls, h]

end Runs

end SharedStore
