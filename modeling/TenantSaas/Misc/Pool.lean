import TenantSaas.Misc.Prog

/-!
# Threads over a shared store

Any number of programs run against one store, one call at a time, in any order.  A
thread may also be lost at any point.  A run records the pool before each of its
steps, so that what a step did can be read off the trace.
-/

structure Pool {Op : Type} (σ ι : Type) (Res : Op → Type) (ε α : Type) where
  store : σ
  threads : List (ι × Prog Res ε α)

namespace Pool

variable {Op : Type} {σ ι φ : Type} {Res : Op → Type} {ε α : Type}

/-- What one step did: `φ` is the environment's choice for the call it made. -/
inductive Label {Op : Type} (ι φ : Type) (Res : Op → Type) (ε α : Type) where
  | start (tag : ι)
  | call (tag : ι) (op : Op) (outcome : φ)
  | die (tag : ι) (rest : Prog Res ε α)
  | finish (tag : ι) (result : Except ε α)

/-- One step of a pool whose threads run `body tag`. -/
inductive Step (exec : φ → σ → (op : Op) → Except ε (Res op) × σ) (body : ι → Prog Res ε α) :
    Pool σ ι Res ε α → Label ι φ Res ε α → Pool σ ι Res ε α → Prop where
  | start (s : σ) (threads : List (ι × Prog Res ε α)) (tag : ι) :
      Step exec body ⟨s, threads⟩ (.start tag) ⟨s, (tag, body tag) :: threads⟩
  | call (s : σ) (before after : List (ι × Prog Res ε α)) (tag : ι) (op : Op)
      (next : Except ε (Res op) → Prog Res ε α) (outcome : φ) :
      Step exec body ⟨s, before ++ (tag, .call op next) :: after⟩ (.call tag op outcome)
        ⟨(exec outcome s op).2, before ++ (tag, next (exec outcome s op).1) :: after⟩
  | die (s : σ) (before after : List (ι × Prog Res ε α)) (tag : ι) (p : Prog Res ε α) :
      Step exec body ⟨s, before ++ (tag, p) :: after⟩ (.die tag p) ⟨s, before ++ after⟩
  | done (s : σ) (before after : List (ι × Prog Res ε α)) (tag : ι) (a : α) :
      Step exec body ⟨s, before ++ (tag, .ret a) :: after⟩ (.finish tag (.ok a))
        ⟨s, before ++ after⟩
  | crash (s : σ) (before after : List (ι × Prog Res ε α)) (tag : ι) (e : ε) :
      Step exec body ⟨s, before ++ (tag, .raise e) :: after⟩ (.finish tag (.error e))
        ⟨s, before ++ after⟩

/-- The steps of a run, each with the pool it started from. -/
abbrev Trace {Op : Type} (σ ι φ : Type) (Res : Op → Type) (ε α : Type) :=
  List (Pool σ ι Res ε α × Label ι φ Res ε α)

inductive Run (exec : φ → σ → (op : Op) → Except ε (Res op) × σ) (body : ι → Prog Res ε α)
    (init : Pool σ ι Res ε α) : Trace σ ι φ Res ε α → Pool σ ι Res ε α → Prop where
  | nil : Run exec body init [] init
  | snoc {trace : Trace σ ι φ Res ε α} {pool : Pool σ ι Res ε α} {label : Label ι φ Res ε α}
      {pool' : Pool σ ι Res ε α} (run : Run exec body init trace pool)
      (step : Step exec body pool label pool') :
      Run exec body init (trace ++ [(pool, label)]) pool'

section Threads

variable {exec : φ → σ → (op : Op) → Except ε (Res op) × σ} {body : ι → Prog Res ε α}

/-- A store invariant `I` and an assertion `T` on each thread that survive every
permitted step: the thread's own calls and the calls of the others. -/
structure ThreadRule (exec : φ → σ → (op : Op) → Except ε (Res op) × σ)
    (body : ι → Prog Res ε α) (Permitted : Label ι φ Res ε α → Prop) (I : σ → Prop)
    (T : ι → Prog Res ε α → σ → Prop) : Prop where
  start : ∀ s tag, Permitted (.start tag) → I s → T tag (body tag) s
  call : ∀ s tag op next outcome, Permitted (.call tag op outcome) → I s →
    T tag (.call op next) s →
      I (exec outcome s op).2 ∧ T tag (next (exec outcome s op).1) (exec outcome s op).2
  stable : ∀ s tag op next outcome, Permitted (.call tag op outcome) → I s →
    T tag (.call op next) s → ∀ tag' p, T tag' p s → T tag' p (exec outcome s op).2

variable {Permitted : Label ι φ Res ε α → Prop} {I : σ → Prop}
  {T : ι → Prog Res ε α → σ → Prop}

theorem ThreadRule.step (rule : ThreadRule exec body Permitted I T)
    {pool pool' : Pool σ ι Res ε α} {label : Label ι φ Res ε α}
    (step : Step exec body pool label pool') (permitted : Permitted label)
    (hI : I pool.store) (hT : ∀ t ∈ pool.threads, T t.1 t.2 pool.store) :
    I pool'.store ∧ ∀ t ∈ pool'.threads, T t.1 t.2 pool'.store := by
  cases step with
  | start s threads tag =>
    refine ⟨hI, fun t ht => ?_⟩
    rcases List.mem_cons.mp ht with rfl | ht
    · exact rule.start s tag permitted hI
    · exact hT t ht
  | call s before after tag op next outcome =>
    have own := hT (tag, .call op next) (by simp)
    obtain ⟨hI', own'⟩ := rule.call s tag op next outcome permitted hI own
    refine ⟨hI', fun t ht => ?_⟩
    have others := rule.stable s tag op next outcome permitted hI own
    simp only [List.mem_append, List.mem_cons] at ht
    rcases ht with ht | rfl | ht
    · exact others _ _ (hT t (by simp [ht]))
    · exact own'
    · exact others _ _ (hT t (by simp [ht]))
  | die s before after tag p =>
    exact ⟨hI, fun t ht => hT t (by rcases List.mem_append.mp ht with ht | ht <;> simp [ht])⟩
  | done s before after tag a =>
    exact ⟨hI, fun t ht => hT t (by rcases List.mem_append.mp ht with ht | ht <;> simp [ht])⟩
  | crash s before after tag e =>
    exact ⟨hI, fun t ht => hT t (by rcases List.mem_append.mp ht with ht | ht <;> simp [ht])⟩

/-- The rule holds in every pool of a run, also before each recorded step. -/
theorem ThreadRule.run (rule : ThreadRule exec body Permitted I T)
    {init pool : Pool σ ι Res ε α} {trace : Trace σ ι φ Res ε α}
    (run : Run exec body init trace pool) (permitted : ∀ x ∈ trace, Permitted x.2)
    (hI : I init.store) (hT : ∀ t ∈ init.threads, T t.1 t.2 init.store) :
    (I pool.store ∧ ∀ t ∈ pool.threads, T t.1 t.2 pool.store) ∧
      ∀ x ∈ trace, I x.1.store ∧ ∀ t ∈ x.1.threads, T t.1 t.2 x.1.store := by
  induction run with
  | nil => exact ⟨⟨hI, hT⟩, by simp⟩
  | @snoc trace pool label pool' run step ih =>
    obtain ⟨now, past⟩ := ih fun x hx => permitted x (by simp [hx])
    refine ⟨rule.step step (permitted (pool, label) (by simp)) now.1 now.2, fun x hx => ?_⟩
    rcases List.mem_append.mp hx with hx | hx
    · exact past x hx
    · obtain rfl := List.mem_singleton.mp hx
      exact now

/-- What a program's end: the assertion on its last form, before it leaves the pool. -/
def Ended (T : ι → Prog Res ε α → σ → Prop) (tag : ι) (s : σ) : Except ε α → Prop
  | .ok a => T tag (.ret a) s
  | .error e => T tag (.raise e) s

/-- A thread that finished met its assertion when it did. -/
theorem ThreadRule.ended (rule : ThreadRule exec body Permitted I T)
    {init pool : Pool σ ι Res ε α} {trace : Trace σ ι φ Res ε α}
    (run : Run exec body init trace pool) (permitted : ∀ x ∈ trace, Permitted x.2)
    (hI : I init.store) (hT : ∀ t ∈ init.threads, T t.1 t.2 init.store)
    {x : Pool σ ι Res ε α × Label ι φ Res ε α} (hx : x ∈ trace) {tag : ι} {result : Except ε α}
    (hfinish : x.2 = .finish tag result) : Ended T tag x.1.store result := by
  induction run with
  | nil => cases hx
  | @snoc trace pool label pool' run step ih =>
    have hpast : ∀ x ∈ trace, Permitted x.2 := fun x hx => permitted x (by simp [hx])
    rcases List.mem_append.mp hx with hx | hx
    · exact ih hpast hx
    · obtain rfl := List.mem_singleton.mp hx
      have hthreads := (rule.run run hpast hI hT).1.2
      cases step with
      | start s threads tag => cases hfinish
      | call s before after tag op next outcome => cases hfinish
      | die s before after tag p => cases hfinish
      | done s before after tag a =>
        cases hfinish
        exact hthreads (tag, .ret a) (by simp)
      | crash s before after tag e =>
        cases hfinish
        exact hthreads (tag, .raise e) (by simp)

/-- A thread that is running, or has its postcondition, does so after a step in which none dies:
it goes on, or ends with the postcondition, which is stable. -/
theorem settled_step {Post : ι → σ → Prop}
    (last : ∀ tag s result, Ended T tag s result → Post tag s)
    (stable : ∀ tag s op outcome, Post tag s → Post tag (exec outcome s op).2)
    {pool pool' : Pool σ ι Res ε α} {label : Label ι φ Res ε α}
    (step : Step exec body pool label pool') (alive : ∀ tag p, label ≠ .die tag p)
    (hT : ∀ t ∈ pool.threads, T t.1 t.2 pool.store) {tag : ι}
    (before : (∃ p, (tag, p) ∈ pool.threads) ∨ Post tag pool.store) :
    (∃ p, (tag, p) ∈ pool'.threads) ∨ Post tag pool'.store := by
  cases step with
  | start s threads tag' =>
    refine before.imp_left ?_
    intro h
    obtain ⟨p, hp⟩ := h
    exact ⟨p, List.mem_cons_of_mem _ hp⟩
  | call s front back tag' op next outcome =>
    rcases before with ⟨p, hp⟩ | hpost
    · left
      rcases List.mem_cons.mp (List.perm_middle.mem_iff.mp hp) with heq | hp
      · cases heq
        exact ⟨next (exec outcome s op).1, by simp⟩
      · exact ⟨p, List.perm_middle.mem_iff.mpr (List.mem_cons_of_mem _ hp)⟩
    · exact .inr (stable tag s op outcome hpost)
  | die s front back tag' p => exact absurd rfl (alive tag' p)
  | done s front back tag' a =>
    rcases before with ⟨p, hp⟩ | hpost
    · rcases List.mem_cons.mp (List.perm_middle.mem_iff.mp hp) with heq | hp
      · cases heq
        exact .inr (last tag s (.ok a) (hT (tag, .ret a) (by simp)))
      · exact .inl ⟨p, hp⟩
    · exact .inr hpost
  | crash s front back tag' e =>
    rcases before with ⟨p, hp⟩ | hpost
    · rcases List.mem_cons.mp (List.perm_middle.mem_iff.mp hp) with heq | hp
      · cases heq
        exact .inr (last tag s (.error e) (hT (tag, .raise e) (by simp)))
      · exact .inl ⟨p, hp⟩
    · exact .inr hpost

/-- When no thread dies, each that was started is still running, or its stable postcondition
holds from its end on. -/
theorem ThreadRule.settled (rule : ThreadRule exec body Permitted I T) {Post : ι → σ → Prop}
    (last : ∀ tag s result, Ended T tag s result → Post tag s)
    (stable : ∀ tag s op outcome, Post tag s → Post tag (exec outcome s op).2)
    (alive : ∀ tag p, ¬ Permitted (.die tag p))
    {init pool : Pool σ ι Res ε α} {trace : Trace σ ι φ Res ε α}
    (run : Run exec body init trace pool) (permitted : ∀ x ∈ trace, Permitted x.2)
    (hI : I init.store) (hT : ∀ t ∈ init.threads, T t.1 t.2 init.store)
    {x : Pool σ ι Res ε α × Label ι φ Res ε α} (hx : x ∈ trace) {tag : ι}
    (hstart : x.2 = .start tag) : (∃ p, (tag, p) ∈ pool.threads) ∨ Post tag pool.store := by
  induction run with
  | nil => cases hx
  | @snoc trace pool label pool' run step ih =>
    have hpast : ∀ x ∈ trace, Permitted x.2 := fun x hx => permitted x (by simp [hx])
    rcases List.mem_append.mp hx with hx | hx
    · refine settled_step last stable step ?_ (rule.run run hpast hI hT).1.2 (ih hpast hx)
      intro tag' p hdie
      exact alive tag' p (hdie ▸ permitted (pool, label) (by simp))
    · obtain rfl := List.mem_singleton.mp hx
      cases step with
      | start s threads tag' =>
        cases hstart
        exact .inl ⟨body tag, by simp⟩
      | call s before after tag' op next outcome => cases hstart
      | die s before after tag' p => cases hstart
      | done s before after tag' a => cases hstart
      | crash s before after tag' e => cases hstart

end Threads

/-! ## Rely and guarantee -/

/-- Whatever the others do between two calls (`rely`) and whatever the environment
answers (`Allowed`), the program ends in a result and a store satisfying `Q`. -/
def Ensures (exec : φ → σ → (op : Op) → Except ε (Res op) × σ) (Allowed : φ → Prop)
    (rely : σ → σ → Prop) (Q : Except ε α → σ → Prop) : Prog Res ε α → σ → Prop
  | .ret a, s => ∀ s', rely s s' → Q (.ok a) s'
  | .raise e, s => ∀ s', rely s s' → Q (.error e) s'
  | .call op next, s => ∀ s', rely s s' → ∀ outcome, Allowed outcome →
      Ensures exec Allowed rely Q (next (exec outcome s' op).1) (exec outcome s' op).2

namespace Ensures

variable {exec : φ → σ → (op : Op) → Except ε (Res op) × σ} {Allowed : φ → Prop}
  {rely : σ → σ → Prop} {β : Type}

theorem mono {Q Q' : Except ε α → σ → Prop} (h : ∀ r s, Q r s → Q' r s)
    {p : Prog Res ε α} {s : σ} (hp : Ensures exec Allowed rely Q p s) :
    Ensures exec Allowed rely Q' p s := by
  induction p generalizing s with
  | ret a => exact fun s' hs => h _ _ (hp s' hs)
  | raise e => exact fun s' hs => h _ _ (hp s' hs)
  | call op next ih => exact fun s' hs o ho => ih _ (hp s' hs o ho)

/-- A step of another thread does not disturb the assertion. -/
theorem stable (trans : ∀ a b c, rely a b → rely b c → rely a c) {Q : Except ε α → σ → Prop}
    {p : Prog Res ε α} {s t : σ} (hst : rely s t) (hp : Ensures exec Allowed rely Q p s) :
    Ensures exec Allowed rely Q p t := by
  cases p with
  | ret a => exact fun s' hs => hp s' (trans _ _ _ hst hs)
  | raise e => exact fun s' hs => hp s' (trans _ _ _ hst hs)
  | call op next => exact fun s' hs => hp s' (trans _ _ _ hst hs)

theorem bind (refl : ∀ s, rely s s) {Q : Except ε β → σ → Prop} {p : Prog Res ε α}
    {f : α → Prog Res ε β} {s : σ}
    (hp : Ensures exec Allowed rely (fun r s' => match r with
      | .ok a => Ensures exec Allowed rely Q (f a) s'
      | .error e => Q (.error e) s') p s) :
    Ensures exec Allowed rely Q (p.bind f) s := by
  induction p generalizing s with
  | ret a => exact hp s (refl s)
  | raise e => exact hp
  | call op next ih => exact fun s' hs o ho => ih _ (hp s' hs o ho)

theorem handle (refl : ∀ s, rely s s) {Q : Except ε α → σ → Prop} {p : Prog Res ε α}
    {h : ε → Prog Res ε α} {s : σ}
    (hp : Ensures exec Allowed rely (fun r s' => match r with
      | .ok a => Q (.ok a) s'
      | .error e => Ensures exec Allowed rely Q (h e) s') p s) :
    Ensures exec Allowed rely Q (p.handle h) s := by
  induction p generalizing s with
  | ret a => exact hp
  | raise e => exact hp s (refl s)
  | call op next ih => exact fun s' hs o ho => ih _ (hp s' hs o ho)

/-- The store at the end is what the program and the others can have made of that at the start. -/
theorem since {Q : Except ε α → σ → Prop} {p : Prog Res ε α} {s₀ s : σ}
    (hp : Ensures exec Allowed rely Q p s) (trans : ∀ a b c, rely a b → rely b c → rely a c)
    (guarantee : ∀ o s (op : Op), rely s (exec o s op).2) (h₀ : rely s₀ s) :
    Ensures exec Allowed rely (fun r s' => Q r s' ∧ rely s₀ s') p s := by
  induction p generalizing s with
  | ret a => exact fun s' hs => ⟨hp s' hs, trans _ _ _ h₀ hs⟩
  | raise e => exact fun s' hs => ⟨hp s' hs, trans _ _ _ h₀ hs⟩
  | call op next ih =>
    intro s' hs o ho
    exact ih _ (hp s' hs o ho) (trans _ _ _ h₀ (trans _ _ _ hs (guarantee o s' op)))

/-- Programs that ensure their postcondition form a thread rule, when every call moves
the store within what the others rely on. -/
theorem threadRule (refl : ∀ s, rely s s) (trans : ∀ a b c, rely a b → rely b c → rely a c)
    (guarantee : ∀ o s (op : Op), rely s (exec o s op).2) {body : ι → Prog Res ε α}
    {Permitted : Label ι φ Res ε α → Prop}
    (allowed : ∀ tag op o, Permitted (.call tag op o) → Allowed o)
    {Q : ι → Except ε α → σ → Prop}
    (hbody : ∀ tag s, Permitted (.start tag) → Ensures exec Allowed rely (Q tag) (body tag) s) :
    ThreadRule exec body Permitted (fun _ => True)
      fun tag p s => Ensures exec Allowed rely (Q tag) p s where
  start s tag h _ := hbody tag s h
  call s tag op _ o h _ hT := ⟨trivial, hT s (refl s) o (allowed tag op o h)⟩
  stable s _ op _ o _ _ _ _ _ hT := stable trans (guarantee o s op) hT

end Ensures

/-! ## Schedules -/

/-- One move of a scheduler; threads are named by their place in the pool. -/
inductive Move (ι φ : Type) where
  | start (tag : ι)
  | call (place : Nat) (outcome : φ)
  | finish (place : Nat)

section Play

variable (exec : φ → σ → (op : Op) → Except ε (Res op) × σ) (body : ι → Prog Res ε α)

/-- Make one move, when the thread it names can make it. -/
def move (pool : Pool σ ι Res ε α) : Move ι φ → Option (Label ι φ Res ε α × Pool σ ι Res ε α)
  | .start tag => some (.start tag, ⟨pool.store, (tag, body tag) :: pool.threads⟩)
  | .call place outcome =>
    match pool.threads.drop place with
    | (tag, .call op next) :: after =>
      some (.call tag op outcome,
        ⟨(exec outcome pool.store op).2,
          pool.threads.take place ++ (tag, next (exec outcome pool.store op).1) :: after⟩)
    | _ => none
  | .finish place =>
    match pool.threads.drop place with
    | (tag, .ret a) :: after =>
      some (.finish tag (.ok a), ⟨pool.store, pool.threads.take place ++ after⟩)
    | (tag, .raise e) :: after =>
      some (.finish tag (.error e), ⟨pool.store, pool.threads.take place ++ after⟩)
    | _ => none

/-- Make the moves in turn, recording the steps. -/
def play : List (Move ι φ) → Pool σ ι Res ε α → Option (Trace σ ι φ Res ε α × Pool σ ι Res ε α)
  | [], pool => some ([], pool)
  | m :: ms, pool =>
    match move exec body pool m with
    | none => none
    | some (label, pool') => (play ms pool').map fun rest => ((pool, label) :: rest.1, rest.2)

variable {exec body}

theorem step_of_move {pool pool' : Pool σ ι Res ε α} {m : Move ι φ} {label : Label ι φ Res ε α}
    (h : move exec body pool m = some (label, pool')) : Step exec body pool label pool' := by
  obtain ⟨s, threads⟩ := pool
  cases m with
  | start tag =>
    cases h
    exact .start s threads tag
  | call place outcome =>
    have hsplit := List.take_append_drop place threads
    simp only [move] at h
    split at h
    · rename_i tag op next after hdrop
      rw [hdrop] at hsplit
      cases h
      have hstep : Step exec body _ _ _ := .call s (threads.take place) after tag op next outcome
      rwa [hsplit] at hstep
    · cases h
  | finish place =>
    have hsplit := List.take_append_drop place threads
    simp only [move] at h
    split at h
    · rename_i tag a after hdrop
      rw [hdrop] at hsplit
      cases h
      have hstep : Step exec body _ _ _ := .done s (threads.take place) after tag a
      rwa [hsplit] at hstep
    · rename_i tag e after hdrop
      rw [hdrop] at hsplit
      cases h
      have hstep : Step exec body _ _ _ := .crash s (threads.take place) after tag e
      rwa [hsplit] at hstep
    · cases h

theorem Run.append {init pool pool' : Pool σ ι Res ε α} {trace trace' : Trace σ ι φ Res ε α}
    (run : Run exec body init trace pool) (rest : Run exec body pool trace' pool') :
    Run exec body init (trace ++ trace') pool' := by
  induction rest with
  | nil => rwa [List.append_nil]
  | snoc rest step ih =>
    rw [← List.append_assoc]
    exact ih.snoc step

/-- What a schedule plays is a run. -/
theorem run_of_play {ms : List (Move ι φ)} {pool pool' : Pool σ ι Res ε α}
    {trace : Trace σ ι φ Res ε α} (h : play exec body ms pool = some (trace, pool')) :
    Run exec body pool trace pool' := by
  induction ms generalizing pool trace with
  | nil =>
    cases h
    exact .nil
  | cons m ms ih =>
    rw [play] at h
    cases hmove : move exec body pool m with
    | none => simp [hmove] at h
    | some result =>
      obtain ⟨label, pool₁⟩ := result
      simp only [hmove, Option.map_eq_some_iff] at h
      obtain ⟨⟨trace₁, pool₂⟩, hrest, heq⟩ := h
      cases heq
      exact (Run.nil.snoc (step_of_move hmove)).append (ih hrest)

/-- The label a move makes. -/
def Move.Makes : Move ι φ → Label ι φ Res ε α → Prop
  | .start tag, label => label = .start tag
  | .call _ outcome, label => ∃ tag op, label = .call tag op outcome
  | .finish _, label => ∃ tag result, label = .finish tag result

theorem makes_of_move {pool pool' : Pool σ ι Res ε α} {m : Move ι φ} {label : Label ι φ Res ε α}
    (h : move exec body pool m = some (label, pool')) : m.Makes label := by
  cases m with
  | start tag =>
    cases h
    rfl
  | call place outcome =>
    simp only [move] at h
    split at h
    · cases h
      exact ⟨_, _, rfl⟩
    · cases h
  | finish place =>
    simp only [move] at h
    split at h
    · cases h
      exact ⟨_, _, rfl⟩
    · cases h
      exact ⟨_, _, rfl⟩
    · cases h

/-- The steps of a played schedule are its moves, in order. -/
theorem forall₂_of_play {ms : List (Move ι φ)} {pool pool' : Pool σ ι Res ε α}
    {trace : Trace σ ι φ Res ε α} (h : play exec body ms pool = some (trace, pool')) :
    List.Forall₂ (fun m x => m.Makes x.2) ms trace := by
  induction ms generalizing pool trace with
  | nil =>
    cases h
    exact .nil
  | cons m ms ih =>
    rw [play] at h
    cases hmove : move exec body pool m with
    | none => simp [hmove] at h
    | some result =>
      obtain ⟨label, pool₁⟩ := result
      simp only [hmove, Option.map_eq_some_iff] at h
      obtain ⟨⟨trace₁, pool₂⟩, hrest, heq⟩ := h
      cases heq
      exact .cons (makes_of_move hmove) (ih hrest)

theorem exists_move_of_mem {ms : List (Move ι φ)} {pool pool' : Pool σ ι Res ε α}
    {trace : Trace σ ι φ Res ε α} (h : play exec body ms pool = some (trace, pool'))
    {x : Pool σ ι Res ε α × Label ι φ Res ε α} (hx : x ∈ trace) : ∃ m ∈ ms, m.Makes x.2 := by
  have hsteps := forall₂_of_play h
  clear h
  induction hsteps with
  | nil => cases hx
  | cons hmakes _ ih =>
    rcases List.mem_cons.mp hx with rfl | hx
    · exact ⟨_, List.mem_cons_self, hmakes⟩
    · obtain ⟨m, hm, hmakes'⟩ := ih hx
      exact ⟨m, List.mem_cons_of_mem _ hm, hmakes'⟩

/-- An invocation that was started was started by a move. -/
theorem start_of_mem {ms : List (Move ι φ)} {pool pool' : Pool σ ι Res ε α}
    {trace : Trace σ ι φ Res ε α} (h : play exec body ms pool = some (trace, pool'))
    {x : Pool σ ι Res ε α × Label ι φ Res ε α} (hx : x ∈ trace) {tag : ι}
    (hstart : x.2 = .start tag) : Move.start tag ∈ ms := by
  obtain ⟨m, hm, hmakes⟩ := exists_move_of_mem h hx
  rw [hstart] at hmakes
  cases m with
  | start tag' =>
    cases hmakes
    exact hm
  | call place outcome =>
    obtain ⟨tag', op, heq⟩ := hmakes
    cases heq
  | finish place =>
    obtain ⟨tag', result, heq⟩ := hmakes
    cases heq

theorem exists_step_of_mem {ms : List (Move ι φ)} {pool pool' : Pool σ ι Res ε α}
    {trace : Trace σ ι φ Res ε α} (h : play exec body ms pool = some (trace, pool'))
    {m : Move ι φ} (hm : m ∈ ms) : ∃ x ∈ trace, m.Makes x.2 := by
  have hsteps := forall₂_of_play h
  clear h
  induction hsteps with
  | nil => cases hm
  | cons hmakes _ ih =>
    rcases List.mem_cons.mp hm with rfl | hm
    · exact ⟨_, List.mem_cons_self, hmakes⟩
    · obtain ⟨x, hx, hmakes'⟩ := ih hm
      exact ⟨x, List.mem_cons_of_mem _ hx, hmakes'⟩

end Play

end Pool
