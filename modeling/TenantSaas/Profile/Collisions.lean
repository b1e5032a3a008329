import TenantSaas.Profile.FirstSaves

/-!
# First saves that collide

Two saves that have both read that the user has no row wait for each other with their `INSERT`,
and the database rolls one back.
-/

namespace TenantSaas

open KeyFlight (Label)

section Collisions

variable {ι : Type} [DecidableEq ι] {saves : SavesOf ι} {world : World} {rows : Table}
  {trace : Steps.Trace (KeyFlight ι Unit) (Label ι)} {flight : KeyFlight ι Unit}
  {stage : ι → SaveStage} {i : ι}

/-- A save that has raised, or will once its connection is closed. -/
inductive Failing : App Unit → Prop where
  | aborting (e : PyError) : Failing (ending (throw e))
  | dropping (e : PyError) : Failing (Prog.finally' (throw e) (perform .close))
  | failed (e : PyError) : Failing (throw e)

theorem Failing.next {op : AppOp} {next : Except PyError op.Res → App Unit}
    (h : Failing (.call op next)) (r : Except PyError op.Res) : Failing (next r) := by
  generalize hp : Prog.call op next = p at h
  cases h with
  | aborting e =>
    cases hp
    cases r with
    | ok _ => exact .dropping e
    | error e' => exact .dropping e'
  | dropping e =>
    cases hp
    cases r with
    | ok _ => exact .failed e
    | error e' => exact .failed e'
  | failed e => cases hp

/-- It fails still after a call of any save. -/
theorem Failing.update {progs : ι → App Unit} (h : Failing (progs i)) {k : ι} {op : AppOp}
    {next : Except PyError op.Res → App Unit} (hprog : progs k = .call op next)
    (r : Except PyError op.Res) : Failing (Function.update progs k (next r) i) := by
  by_cases hk : i = k
  · rw [hk, hprog] at h
    rw [hk, Function.update_self]
    exact h.next r
  · rwa [Function.update_of_ne hk]

variable (saves) in
/-- Two saves hold the gap and wait to insert, or one has failed. -/
def Doomed (flight : KeyFlight ι Unit) : Prop :=
  (∃ i j, i ≠ j ∧ (flight.site.locks.gap i = true ∧ flight.progs i = saves.prog i .inserting) ∧
      flight.site.locks.gap j = true ∧ flight.progs j = saves.prog j .inserting) ∨
    ∃ i, Failing (flight.progs i)

/-- A save at its `INSERT` does not get past another that holds the gap, but for a deadlock. -/
theorem Doomed.insert_moves {flight' : KeyFlight ι Unit} {label : Label ι} {j : ι} (hne : i ≠ j)
    (hprog : flight.progs i = saves.prog i .inserting)
    (hgap : flight.site.locks.gap i = true) (hother : flight.site.locks.gap j = true)
    (move : KeyFlight.Move world flight label flight') :
    Failing (flight'.progs i) ∨
      flight'.site.locks.gap i = true ∧ flight'.progs i = saves.prog i .inserting := by
  cases move with
  | call k op next prog admitted =>
    by_cases hk : i = k
    · subst hk
      rw [hprog] at prog
      cases prog
      exact absurd (KeyLocks.waitsFor_of_gap hother (Ne.symm hne)) (admitted .insert rfl j)
    · refine .inr ⟨?_, ?_⟩
      · show (flight.site.exec world k op).2.locks.gap i = true
        rw [gap_exec_other hk, hgap]
      · show Function.update flight.progs k _ i = _
        rw [Function.update_of_ne hk, hprog]
  | deadlock k l op op' next next' prog prog' waits waits' =>
    by_cases hk : i = k
    · subst hk
      rw [hprog] at prog
      cases prog
      left
      show Failing (Function.update flight.progs i _ i)
      rw [Function.update_self]
      exact .aborting _
    · refine .inr ⟨?_, ?_⟩
      · show Function.update flight.site.locks.gap k false i = true
        rw [Function.update_of_ne hk, hgap]
      · show Function.update flight.progs k _ i = _
        rw [Function.update_of_ne hk, hprog]

theorem Doomed.step {flight' : KeyFlight ι Unit} {label : Label ι} (h : Doomed saves flight)
    (move : KeyFlight.Move world flight label flight') : Doomed saves flight' := by
  rcases h with ⟨i, j, hne, ⟨hgap, hprog⟩, hgap', hprog'⟩ | ⟨i, hfailing⟩
  · rcases Doomed.insert_moves hne hprog hgap hgap' move with hfailing | hi
    · exact .inr ⟨i, hfailing⟩
    · rcases Doomed.insert_moves (Ne.symm hne) hprog' hgap' hgap move with hfailing | hj
      · exact .inr ⟨j, hfailing⟩
      · exact .inl ⟨i, j, hne, hi, hj⟩
  · right
    refine ⟨i, ?_⟩
    cases move with
    | call k op next prog admitted => exact hfailing.update prog _
    | deadlock k l op op' next next' prog prog' waits waits' => exact hfailing.update prog _

section Collide

variable (hquiet : ∀ tick op, world.fault tick op = none)
  (hrows : NoRow world.mysql rows saves.userId)
  (h : TakeTurns saves world rows trace flight stage)

include hquiet hrows h

/-- A second save that reads while the gap is held takes it as well. -/
theorem TakeTurns.doomed_of_read (hstage : stage i = .reading) {j : ι} (hne : j ≠ i)
    (hgap : flight.site.locks.gap j = true)
    {next : Except PyError (Option String) → App Unit}
    (hprog : flight.progs i = .call (.selectForUpdate saves.table saves.userId) next) :
    Doomed saves ⟨(flight.site.exec world i (.selectForUpdate saves.table saves.userId)).2,
      Function.update flight.progs i
        (next (flight.site.exec world i (.selectForUpdate saves.table saves.userId)).1)⟩ := by
  have hrecord := h.key.record_ne (i := i) (by rw [hstage]; rfl)
  cases h.prog_eq hstage hprog
  obtain ⟨hinside, hcommitted⟩ := h.key.of_gap hgap
  have hfind := find?_absent hrows
  rw [← hcommitted] at hfind
  obtain ⟨hanswer, hlocks, -⟩ := exec_read_none hquiet hrecord hfind
  refine .inl ⟨i, j, Ne.symm hne, ⟨?_, ?_⟩, ?_, ?_⟩
  · show (flight.site.exec world i _).2.locks.gap i = true
    rw [hlocks]
    exact Function.update_self ..
  · show Function.update flight.progs i _ i = _
    rw [hanswer, Function.update_self]
    rfl
  · show (flight.site.exec world i _).2.locks.gap j = true
    rw [gap_exec_other hne, hgap]
  · show Function.update flight.progs i _ j = _
    rw [Function.update_of_ne hne, h.progs j, hinside]

/-- An `UPDATE` that changes nothing raises. -/
theorem TakeTurns.doomed_of_update (hfirst : Belongs world.mysql rows saves.userId (saves.row i))
    (hstage : stage i = .updating) {statement : RowWrite}
    (hstatement : statement = .updateProfile saves.userId (editable (saves.fields i)))
    (hsame : ¬ Calm world flight (.call i (.write saves.table statement)))
    {next : Except PyError Nat → App Unit}
    (hprog : flight.progs i = .call (.write saves.table statement) next) :
    Doomed saves ⟨(flight.site.exec world i (.write saves.table statement)).2,
      Function.update flight.progs i
        (next (flight.site.exec world i (.write saves.table statement)).1)⟩ := by
  subst hstatement
  obtain ⟨-, hheld⟩ := h.key.inside (i := i) (by rw [hstage]; rfl)
  rw [hstage] at hheld
  obtain ⟨⟨⟩, -⟩ | ⟨hsite, -, row, working, belongs, -⟩ := hheld
  have htables := tables_of_record hsite
  have hkept : row.setAll (editable (saves.fields i)) = row := by
    by_contra hdiffers
    refine hsame ⟨row, ?_, ?_, hdiffers⟩
    · rw [htables, working]
      exact List.mem_append_right _ List.mem_cons_self
    · rw [belongs.userId]
      exact beq_self_eq_true _
  have happly := apply_update_first hrows belongs (belongs.setAll hfirst)
  rw [if_neg (not_not_intro hkept), ← working, ← htables] at happly
  obtain ⟨hanswer, -, -⟩ := exec_write hquiet happly
  cases h.prog_eq hstage hprog
  refine .inr ⟨i, ?_⟩
  show Failing (Function.update flight.progs i _ i)
  rw [hanswer, Function.update_self]
  exact .aborting _

/-- A step that breaks the peace. -/
theorem TakeTurns.doomed (hfirst : ∀ i, Belongs world.mysql rows saves.userId (saves.row i))
    {label : Label ι} {flight' : KeyFlight ι Unit} (hnot : ¬ Calm world flight label)
    (move : KeyFlight.Move world flight label flight') : Doomed saves flight' := by
  cases move with
  | deadlock i j op op' next next' prog prog' waits waits' =>
    exact (h.no_deadlock waits waits').elim
  | call i op next prog admitted =>
    have hprog := h.progs i
    rw [prog] at hprog
    cases hstage : stage i with
    | reading =>
      rw [hstage] at hprog
      cases hprog
      have hheld : ∃ j, flight.site.locks.gap j = true ∧ j ≠ i := by
        by_contra hfree
        exact hnot fun j hj => by_contra fun hne => hfree ⟨j, hj, hne⟩
      obtain ⟨j, hgap, hne⟩ := hheld
      exact h.doomed_of_read hquiet hrows hstage hne hgap prog
    | updating =>
      rw [hstage] at hprog
      cases hprog
      exact h.doomed_of_update hquiet hrows (hfirst i) hstage rfl hnot prog
    | saved =>
      rw [hstage] at hprog
      cases hprog
    | connecting | inserting | committing | closing =>
      rw [hstage] at hprog
      cases hprog
      exact absurd trivial hnot

end Collide

/-! ## Whole runs -/

variable (saves rows) in
/-- At most one save takes the `INSERT` branch, all commit, and the row has the fields of the
save that committed last. -/
structure Collisionless (trace : Steps.Trace (KeyFlight ι Unit) (Label ι))
    (flight : KeyFlight ι Unit) : Prop where
  oneInsert : inserts trace ≤ 1
  returned : ∀ i, flight.progs i = .ret ()
  committed : ∀ i, ∃ x ∈ trace, x.2 = .call i .commit
  lastWins : ∃ k row, lastCommitter trace = some k ∧
    flight.site.shared.rds.committed saves.table = rows ++ [row] ∧ row.userId = saves.userId ∧
      Carries saves k row

/-- The saves before their first call. -/
structure Started (config : Config) (saves : SavesOf ι) (rows : Table)
    (flight : KeyFlight ι Unit) : Prop where
  progs : ∀ i, flight.progs i =
    upsertUserProfile config saves.tenant saves.userId (saves.fields i) (saves.role i)
  locks : flight.site.locks = .free
  rows : flight.site.shared.rds.committed saves.table = rows

theorem Started.takeTurns {config : Config} (demo : config.demoMode = false)
    (h : Started config saves rows flight) :
    TakeTurns saves world rows [] flight fun _ => .connecting where
  progs i := by rw [h.progs i, saves.upsert_eq i demo]
  key := by
    rw [h.locks]
    exact .absent _ (fun _ => rfl) h.rows
  last := h.rows
  committed i hi := by rcases hi with ⟨⟨⟩⟩ | ⟨⟨⟩⟩

theorem TakeTurns.collisionless [Nonempty ι] (h : TakeTurns saves world rows trace flight stage)
    (hfinished : flight.Finished) : Collisionless saves rows trace flight where
  oneInsert := h.key.inserts_le
  returned i := by
    rw [h.progs i, h.saved (hfinished i)]
    rfl
  committed i := h.committed i (.inr (h.saved (hfinished i)))
  lastWins := by
    obtain ⟨i⟩ := ‹Nonempty ι›
    obtain ⟨x, hx, hcommit⟩ := h.committed i (.inr (h.saved (hfinished i)))
    have hsome : lastCommitter trace ≠ none :=
      Steps.last_ne_none (f := Label.commits) (b := i) hx (by rw [hcommit]; rfl)
    have hlast := h.last
    cases hk : lastCommitter trace with
    | none => exact absurd hk hsome
    | some k =>
      rw [hk] at hlast
      obtain ⟨row, hrow⟩ := hlast
      exact ⟨k, row, rfl, hrow⟩

omit [DecidableEq ι] in
/-- Where saves have collided, not all return. -/
theorem Doomed.not_returned (h : Doomed saves flight) : ¬ ∀ i, flight.progs i = .ret () := by
  intro hreturned
  rcases h with ⟨i, j, -, ⟨-, hprog⟩, -⟩ | ⟨i, hfailing⟩
  · rw [hreturned i] at hprog
    cases hprog
  · rw [hreturned i] at hfailing
    generalize hp : (Prog.ret () : App Unit) = p at hfailing
    cases hfailing <;> cases hp

/-- Saves of one user without a row, which each would succeed alone: they do not collide exactly
when no locking read is made while another transaction that read that there is no row is open,
and every `UPDATE` changes the row.  Then no save raises, and none waits for ever. -/
theorem collisionless_iff_calm [Nonempty ι] {config : Config} (demo : config.demoMode = false)
    (hquiet : ∀ tick op, world.fault tick op = none)
    (hrows : NoRow world.mysql rows saves.userId)
    (hfirst : ∀ i, Belongs world.mysql rows saves.userId (saves.row i))
    {init : KeyFlight ι Unit} (hinit : Started config saves rows init)
    (run : KeyFlight.Run world init trace flight) :
    (flight.Finished →
      (Collisionless saves rows trace flight ↔ ∀ x ∈ trace, Calm world x.1 x.2)) ∧
    ((∀ x ∈ trace, Calm world x.1 x.2) →
      inserts trace ≤ 1 ∧ (∀ i e, flight.progs i ≠ .raise e) ∧
        (flight.Finished ∨ ∃ label flight', KeyFlight.Move world flight label flight')) := by
  have hsplit := Steps.Run.split (P := Calm world)
    (I := fun trace flight => ∃ stage, TakeTurns saves world rows trace flight stage)
    (D := Doomed saves)
    (fun trace s label t ⟨stage, h⟩ calm move => h.step hquiet hrows hfirst calm move)
    (fun trace s label t ⟨stage, h⟩ hnot move => h.doomed hquiet hrows hfirst hnot move)
    (fun s label t h move => h.step move) run ⟨_, hinit.takeTurns demo⟩
  rcases hsplit with ⟨hcalm, stage, h⟩ | ⟨⟨x, hx, hnot⟩, hdoomed⟩
  · refine ⟨fun hfinished => ⟨fun _ => hcalm, fun _ => h.collisionless hfinished⟩, fun _ => ?_⟩
    refine ⟨h.key.inserts_le, fun i e hraise => ?_, h.progress⟩
    have hsaved : stage i = .saved := h.saved fun op next hcall => by
      rw [hraise] at hcall
      cases hcall
    have hprog := h.progs i
    rw [hraise, hsaved] at hprog
    cases hprog
  · constructor
    · intro _
      constructor
      · intro hgood
        exact absurd hgood.returned hdoomed.not_returned
      · intro hcalm
        exact absurd (hcalm x hx) hnot
    · intro hcalm
      exact absurd (hcalm x hx) hnot

end Collisions

/-! ## Two saves -/

/-- Two saves of a new user of TenantA, with different addresses. -/
def twoSaves : SavesOf Bool where
  tenant := "TenantA"
  table := .tenantA
  table_eq := rfl
  userId := "u-9"
  fields i := [("email", if i then "new@a.example" else "old@a.example")]
  role _ := "user"

def twoSavesStart : KeyFlight Bool Unit where
  site := ⟨emptyState, fun _ => .cleared, .free⟩
  progs i := upsertUserProfile sampleConfig twoSaves.tenant twoSaves.userId (twoSaves.fields i)
    (twoSaves.role i)

theorem twoSaves_started : Started sampleConfig twoSaves [] twoSavesStart where
  progs _ := rfl
  locks := rfl
  rows := rfl

theorem twoSaves_belong (i : Bool) : Belongs quietWorld.mysql [] "u-9" (twoSaves.row i) := by
  refine ⟨?_, ?_, fun r hr => by cases hr⟩
  · cases i <;> rfl
  · cases i <;> decide

theorem noRow_nil : NoRow quietWorld.mysql [] "u-9" :=
  ⟨fun r hr => (by cases hr), rfl, rfl⟩

/-- Both saves look for the row first. -/
def bothLook : List (KeyFlight.Turn Bool) :=
  [.call false, .call true, .call false, .call true, .deadlock true false, .call false,
    .call false, .call false, .call true, .call true]

/-- One save after the other. -/
def inTurn : List (KeyFlight.Turn Bool) :=
  [.call false, .call false, .call false, .call false, .call false, .call true, .call true,
    .call true, .call true, .call true]

theorem calm_cons {world : World} {flight : KeyFlight Bool Unit} {label : Label Bool}
    {trace : Steps.Trace (KeyFlight Bool Unit) (Label Bool)} (h : Calm world flight label)
    (hrest : ∀ x ∈ trace, Calm world x.1 x.2) :
    ∀ x ∈ (flight, label) :: trace, Calm world x.1 x.2 :=
  List.forall_mem_cons.mpr ⟨h, hrest⟩

theorem collisionless_iff_calm_in_turn : ∃ trace flight,
    KeyFlight.Run quietWorld twoSavesStart trace flight ∧ flight.Finished ∧
      Collisionless twoSaves [] trace flight := by
  obtain ⟨trace, flight, hplay, hcalm, hreturned⟩ : ∃ trace flight,
      KeyFlight.play quietWorld inTurn twoSavesStart = some (trace, flight) ∧
        (∀ x ∈ trace, Calm quietWorld x.1 x.2) ∧ ∀ i, flight.progs i = .ret () := by
    refine ⟨_, _, rfl, ?_, fun i => by cases i <;> rfl⟩
    -- the reads come second and seventh, the `UPDATE` eighth
    refine calm_cons trivial (calm_cons ?_ (calm_cons trivial (calm_cons trivial
      (calm_cons trivial (calm_cons trivial (calm_cons ?_ (calm_cons ?_ (calm_cons trivial
        (calm_cons trivial fun x hx => (by cases hx))))))))))
    · exact fun j hj => nomatch hj
    · intro j hj
      cases j <;> cases hj
    · exact ⟨_, List.mem_singleton_self _, rfl, by decide⟩
  have hrun := KeyFlight.run_of_play hplay
  have hfinished : flight.Finished := by
    intro i op next hcall
    rw [hreturned i] at hcall
    cases hcall
  exact ⟨trace, flight, hrun, hfinished,
    ((collisionless_iff_calm rfl (fun _ _ => rfl) noRow_nil twoSaves_belong twoSaves_started
      hrun).1 hfinished).mpr hcalm⟩

/-- The second save of two that find no row is rolled back. -/
theorem both_insert : ∃ trace flight, KeyFlight.Run quietWorld twoSavesStart trace flight ∧
    flight.Finished ∧ inserts trace = 2 ∧
    flight.progs true = .raise KeyFlight.deadlockFound ∧
    ¬ Collisionless twoSaves [] trace flight := by
  have hplay : ∃ trace flight, KeyFlight.play quietWorld bothLook twoSavesStart =
      some (trace, flight) ∧ inserts trace = 2 ∧ flight.progs false = .ret () ∧
      flight.progs true = .raise KeyFlight.deadlockFound := ⟨_, _, rfl, rfl, rfl, rfl⟩
  obtain ⟨trace, flight, hplay, hinserts, hfalse, htrue⟩ := hplay
  refine ⟨trace, flight, KeyFlight.run_of_play hplay, fun i op next hcall => ?_, hinserts, htrue,
    fun h => ?_⟩
  · cases i with
    | false =>
      rw [hfalse] at hcall
      cases hcall
    | true =>
      rw [htrue] at hcall
      cases hcall
  · have hreturned := h.returned true
    rw [htrue] at hreturned
    cases hreturned

end TenantSaas
