import TenantSaas.Services.SecretService

/-!
# How old a secret can be

Calls of `get_secret` in one process, while secrets are rotated and requests to Secrets Manager
fail.  Every entry of the cache was held under its own name when it was stored, so that what is
given out was held less than the time to live ago.
-/

namespace TenantSaas

/-- What Secrets Manager holds under each name, at any time. -/
abbrev SecretHistory := ℚ → String → Option SecretString

/-- A call of `get_secret`, the time Secrets Manager is asked, and whether that fails. -/
structure SecretCall where
  secretName : Option String
  clock : Clock
  asked : ℚ
  fault : Option PyError

/-- The answer to `get_secret_value`. -/
def SecretCall.getSecretValue (call : SecretCall) (held : SecretHistory) (name : String) :
    Except PyError SecretString :=
  match call.fault with
  | some e => .error e
  | none =>
    match held call.asked name with
    | some secret => .ok secret
    | none => .error (.clientError "ResourceNotFoundException")

/-- The clock does not run backwards, and secrets change between calls. -/
structure SecretCall.Timely (call : SecretCall) (held : SecretHistory) : Prop where
  asked : call.clock.checked ≤ call.asked
  stored : call.asked ≤ call.clock.stored
  still : ∀ moment, call.clock.checked ≤ moment → moment ≤ call.clock.stored →
    held moment = held call.asked

/-- A call with the cache before and after it. -/
structure SecretOutcome where
  call : SecretCall
  before : SecretCache
  result : Except PyError Json
  after : SecretCache

def SecretCall.outcome (call : SecretCall) (config : Config) (held : SecretHistory)
    (cache : SecretCache) : SecretOutcome where
  call := call
  before := cache
  result := (getSecret config (call.getSecretValue held) call.clock call.secretName cache).1
  after := (getSecret config (call.getSecretValue held) call.clock call.secretName cache).2

/-- The cache a run of calls leaves, the last one first. -/
def lastCache : List SecretOutcome → SecretCache
  | [] => []
  | outcome :: _ => outcome.after

/-- Calls one after the other, from the start of the process. -/
inductive SecretRun (config : Config) (held : SecretHistory) : List SecretOutcome → Prop where
  | start : SecretRun config held []
  | call {trace : List SecretOutcome} (run : SecretRun config held trace) (call : SecretCall)
      (timely : call.Timely held)
      (later : ∀ outcome ∈ trace, outcome.call.clock.stored ≤ call.clock.checked) :
      SecretRun config held (call.outcome config held (lastCache trace) :: trace)

/-- Secrets Manager held a secret with this value. -/
def HeldAs (held : SecretHistory) (moment : ℚ) (name : String) (value : Json) : Prop :=
  ∃ secret, held moment name = some secret ∧ secret.decode = .ok value

/-- There is no entry to answer from. -/
def Stale (cache : SecretCache) (name : String) (checked : ℚ) : Prop :=
  ∀ entry, cache.lookup name = some entry → ¬ checked - entry.fetchedAt < cacheTtlSeconds

/-- What a call may answer, and what becomes of failures. -/
structure SecretOutcome.Right (config : Config) (held : SecretHistory) (outcome : SecretOutcome) :
    Prop where
  /-- A value was held less than five minutes before the call. -/
  fresh : ∀ value, outcome.result = .ok value →
    ∃ moment, outcome.call.clock.checked - cacheTtlSeconds < moment ∧
      moment ≤ outcome.call.clock.stored ∧
      HeldAs held moment (config.secretName outcome.call.secretName) value
  /-- Five minutes after a rotation the old value is gone. -/
  rotated : ∀ rotation secret, rotation + cacheTtlSeconds ≤ outcome.call.clock.checked →
    (∀ moment, rotation ≤ moment → moment ≤ outcome.call.clock.stored →
      held moment (config.secretName outcome.call.secretName) = some secret) →
    ∀ value, outcome.result = .ok value → secret.decode = .ok value
  /-- A fetch that fails raises, whatever has expired. -/
  failed : config.secretName outcome.call.secretName ≠ "" →
    Stale outcome.before (config.secretName outcome.call.secretName) outcome.call.clock.checked →
    ∀ e, readSecret config (outcome.call.getSecretValue held)
        (config.secretName outcome.call.secretName) = .error e →
      outcome.result = .error e ∧ outcome.after = outcome.before
  unchanged : ∀ e, outcome.result = .error e → outcome.after = outcome.before

/-! ## One call -/

/-- The four ways a call ends. -/
inductive Answers (config : Config) (getSecretValue : String → Except PyError SecretString)
    (clock : Clock) (name : String) (cache : SecretCache) :
    Except PyError Json × SecretCache → Prop where
  | unnamed (message : String) (h : name = "") :
      Answers config getSecretValue clock name cache (.error (.valueError message), cache)
  | cached {entry : CacheEntry} (h : cache.lookup name = some entry)
      (fresh : clock.checked - entry.fetchedAt < cacheTtlSeconds) :
      Answers config getSecretValue clock name cache (.ok entry.value, cache)
  | fetched {value : Json} (stale : Stale cache name clock.checked)
      (h : readSecret config getSecretValue name = .ok value) :
      Answers config getSecretValue clock name cache
        (.ok value, dictSet name ⟨value, clock.stored⟩ cache)
  | failed {e : PyError} (stale : Stale cache name clock.checked)
      (h : readSecret config getSecretValue name = .error e) :
      Answers config getSecretValue clock name cache (.error e, cache)

section Call

variable {config : Config} {held : SecretHistory} {call : SecretCall} {cache : SecretCache}
  {name : String} {value : Json}

theorem fetchSecret_answers {getSecretValue : String → Except PyError SecretString} {clock : Clock}
    (demo : config.demoMode = false) (stale : Stale cache name clock.checked) :
    Answers config getSecretValue clock name cache
      (fetchSecret config getSecretValue clock name cache) := by
  rw [fetchSecret, demo, if_neg Bool.false_ne_true]
  cases h : readSecret config getSecretValue name with
  | ok value => exact .fetched stale h
  | error e => exact .failed stale h

theorem getSecret_answers (getSecretValue : String → Except PyError SecretString) (clock : Clock)
    (demo : config.demoMode = false) (secretName : Option String) (cache : SecretCache) :
    Answers config getSecretValue clock (config.secretName secretName) cache
      (getSecret config getSecretValue clock secretName cache) := by
  unfold getSecret
  by_cases hname : config.secretName secretName = ""
  · simp only [hname, if_true]
    exact .unnamed _ rfl
  · simp only [hname, if_false]
    cases hentry : cache.lookup (config.secretName secretName) with
    | none =>
      apply fetchSecret_answers demo
      intro entry hsome
      rw [hentry] at hsome
      cases hsome
    | some entry =>
      by_cases hfresh : clock.checked - entry.fetchedAt < cacheTtlSeconds
      · simp only [hfresh, if_true]
        exact .cached hentry hfresh
      · simp only [hfresh, if_false]
        apply fetchSecret_answers demo
        intro entry' hsome
        rw [hentry] at hsome
        cases hsome
        exact hfresh

/-- A value that is read is held then. -/
theorem heldAs_of_read (h : readSecret config (call.getSecretValue held) name = .ok value) :
    HeldAs held call.asked name value := by
  obtain ⟨region, -, h⟩ := exceptBind_eq_ok.mp h
  obtain ⟨secret, hsecret, hdecode⟩ := exceptBind_eq_ok.mp h
  unfold SecretCall.getSecretValue at hsecret
  cases hfault : call.fault with
  | some e =>
    rw [hfault] at hsecret
    cases hsecret
  | none =>
    rw [hfault] at hsecret
    cases hheld : held call.asked name with
    | none =>
      rw [hheld] at hsecret
      cases hsecret
    | some found =>
      rw [hheld] at hsecret
      cases hsecret
      exact ⟨_, hheld, hdecode⟩

/-- And still when it is stored. -/
theorem SecretCall.Timely.held_stored (timely : call.Timely held)
    (h : HeldAs held call.asked name value) : HeldAs held call.clock.stored name value := by
  unfold HeldAs at h ⊢
  rw [timely.still call.clock.stored (timely.asked.trans timely.stored) le_rfl]
  exact h

section Answer

variable {answer : Except PyError Json × SecretCache}
  (h : Answers config (call.getSecretValue held) call.clock name cache answer)
  (timely : call.Timely held)
  (kept : TtlCache.Sound (HeldAs held) call.clock.checked fun key => cache.lookup key)

include h timely kept

/-- The cache stays sound over a call. -/
theorem Answers.sound :
    TtlCache.Sound (HeldAs held) call.clock.stored fun key => answer.2.lookup key := by
  have hlater := kept.mono (timely.asked.trans timely.stored)
  cases h with
  | unnamed message _ => exact hlater
  | cached _ _ => exact hlater
  | failed _ _ => exact hlater
  | fetched _ hread =>
    refine hlater.set (timely.held_stored (heldAs_of_read hread)) ?_
    intro key entry hentry
    rw [lookup_dictSet] at hentry
    by_cases hkey : key = name
    · rw [if_pos hkey, Option.some.injEq] at hentry
      exact .inl ⟨hkey, hentry.symm⟩
    · rw [if_neg hkey] at hentry
      exact .inr hentry

/-- A value from a sound cache, or from Secrets Manager itself, is fresh. -/
theorem Answers.fresh (hvalue : answer.1 = .ok value) :
    ∃ moment, call.clock.checked - cacheTtlSeconds < moment ∧ moment ≤ call.clock.stored ∧
      HeldAs held moment name value := by
  cases h with
  | unnamed message _ => cases hvalue
  | failed _ _ => cases hvalue
  | cached hentry unexpired =>
    cases hvalue
    exact (kept.mono (timely.asked.trans timely.stored)).fresh hentry unexpired
  | fetched _ hread =>
    cases hvalue
    refine ⟨call.asked, ?_, timely.stored, heldAs_of_read hread⟩
    have httl : (0 : ℚ) < cacheTtlSeconds := by norm_num [cacheTtlSeconds]
    linarith [timely.asked]

end Answer

theorem outcome_right (demo : config.demoMode = false) (timely : call.Timely held)
    (sound : TtlCache.Sound (HeldAs held) call.clock.checked fun key => cache.lookup key) :
    (call.outcome config held cache).Right config held := by
  have h := getSecret_answers (call.getSecretValue held) call.clock demo call.secretName cache
  unfold SecretCall.outcome
  generalize getSecret config (call.getSecretValue held) call.clock call.secretName cache =
    answer at h ⊢
  constructor
  · exact fun value hvalue => h.fresh timely sound hvalue
  · intro rotation secret hold hrotated value hvalue
    have hnew : ∀ moment, rotation ≤ moment → moment ≤ call.clock.stored → ∀ v,
        HeldAs held moment (config.secretName call.secretName) v → secret.decode = .ok v := by
      intro moment hstart hstop v hheld
      obtain ⟨found, hfound, hdecode⟩ := hheld
      have hsecret := (hrotated moment hstart hstop).symm.trans hfound
      rw [Option.some.inj hsecret]
      exact hdecode
    exact TtlCache.after_change (fun v => secret.decode = .ok v) hold hnew
      (h.fresh timely sound hvalue)
  · intro hname stale e hread
    cases h with
    | unnamed message hempty => exact absurd hempty hname
    | cached hentry unexpired => exact absurd unexpired (stale _ hentry)
    | fetched _ hvalue =>
      rw [hread] at hvalue
      cases hvalue
    | failed _ he =>
      rw [hread, Except.error.injEq] at he
      rw [he]
      exact ⟨rfl, rfl⟩
  · intro e he
    cases h with
    | unnamed message _ => rfl
    | cached _ _ => rfl
    | failed _ _ => rfl
    | fetched _ _ => cases he

end Call

/-! ## A run of calls -/

section Run

variable {config : Config} {held : SecretHistory} {trace : List SecretOutcome}

/-- The cache is sound at any time after the last call. -/
theorem SecretRun.sound (demo : config.demoMode = false) (run : SecretRun config held trace)
    {now : ℚ} (later : ∀ outcome ∈ trace, outcome.call.clock.stored ≤ now) :
    TtlCache.Sound (HeldAs held) now fun key => (lastCache trace).lookup key := by
  induction run generalizing now with
  | start => exact TtlCache.sound_empty _ now
  | @call earlier run call timely before ih =>
    have hanswer := getSecret_answers (call.getSecretValue held) call.clock demo
      call.secretName (lastCache earlier)
    exact (hanswer.sound timely (ih before)).mono (later _ List.mem_cons_self)

/-- Every call of every run is right. -/
theorem getSecret_fresh (config : Config) (held : SecretHistory) (trace : List SecretOutcome)
    (demo : config.demoMode = false) (run : SecretRun config held trace) :
    ∀ outcome ∈ trace, outcome.Right config held := by
  induction run with
  | start => exact List.forall_mem_nil _
  | call run call timely later ih =>
    rw [List.forall_mem_cons]
    exact ⟨outcome_right demo timely (run.sound demo later), ih⟩

end Run

/-! ## A rotation -/

/-- The database secret is rotated at second 100. -/
def rotatedSecret : SecretHistory := fun moment _ =>
  if moment < 100 then some (.text (.json (.obj [("password", .str "old")])))
  else some (.text (.json (.obj [("password", .str "new")])))

/-- A call of `get_secret()` that takes no time. -/
def callAt (second : ℚ) : SecretCall := ⟨none, ⟨second, second⟩, second, none⟩

theorem callAt_timely (second : ℚ) : (callAt second).Timely rotatedSecret where
  asked := le_rfl
  stored := le_rfl
  still moment h h' := by rw [le_antisymm h' h]; rfl

/-- The secret is fetched at second 0 and asked for again at second 450. -/
def rotationTrace : List SecretOutcome :=
  let first := (callAt 0).outcome sampleConfig rotatedSecret []
  [(callAt 450).outcome sampleConfig rotatedSecret first.after, first]

theorem rotationTrace_run : SecretRun sampleConfig rotatedSecret rotationTrace := by
  refine (SecretRun.start.call (callAt 0) (callAt_timely 0) (List.forall_mem_nil _)).call
    (callAt 450) (callAt_timely 450) ?_
  intro outcome houtcome
  rw [List.mem_singleton.mp houtcome]
  change (0 : ℚ) ≤ 450
  norm_num

theorem rotation_seen : ∃ outcome ∈ rotationTrace, outcome.call = callAt 450 ∧
    outcome.Right sampleConfig rotatedSecret :=
  ⟨_, List.mem_cons_self, rfl, getSecret_fresh sampleConfig rotatedSecret rotationTrace rfl
    rotationTrace_run _ List.mem_cons_self⟩

end TenantSaas
