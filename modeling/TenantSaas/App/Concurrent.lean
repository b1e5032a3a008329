import TenantSaas.App.World
import Mathlib.Logic.Function.Basic

/-!
# Requests in flight

Requests served at the same time share the databases, the user pools and the clock.  Each has
its own copy of the session cookie and its own connection.  The requests write one row: while a
transaction has written it and is open, the others wait.
-/

namespace TenantSaas

/-- What the requests of `ι` work on.  `writing` is the transaction that holds the row, with the
tables as it sees them. -/
structure Site (ι : Type) where
  shared : AppState
  session : ι → Session
  writing : Option (ι × (TenantTable → Table))

namespace Site

variable {ι : Type} [DecidableEq ι]

/-- The tables as the connection of a request sees them. -/
def tables (site : Site ι) (i : ι) : TenantTable → Table :=
  match site.writing with
  | some (j, working) => if j = i then working else site.shared.rds.committed
  | none => site.shared.rds.committed

/-- The state as a request sees it. -/
def view (site : Site ι) (i : ι) : AppState :=
  { site.shared with
    rds := ⟨site.shared.rds.committed, site.tables i⟩
    session := site.session i }

/-- The transaction after a call of `i` that took effect and left the tables as `working`. -/
def writingAfter (site : Site ι) (i : ι) (op : AppOp) (working : TenantTable → Table) :
    Option (ι × (TenantTable → Table)) :=
  match op with
  | .write _ _ | .selectForUpdate _ _ => some (i, working)
  | .commit | .rollback | .close =>
    if site.writing.map Prod.fst = some i then none else site.writing
  | _ => site.writing

def exec (world : World) (site : Site ι) (i : ι) (op : AppOp) :
    Except PyError op.Res × Site ι :=
  let result := world.exec (site.view i) op
  (result.1,
    { shared := result.2
      session := Function.update site.session i result.2.session
      writing :=
        if result.1.isOk then site.writingAfter i op result.2.rds.working else site.writing })

/-- A call on the row waits for the transaction of another request. -/
def admits (site : Site ι) (i : ι) : AppOp → Bool
  | .write _ _ | .selectForUpdate _ _ => site.writing.all fun held => held.1 == i
  | _ => true

end Site

/-- The requests and what each has still to do. -/
structure Flight (ι α : Type) where
  site : Site ι
  progs : ι → App α

/-- A call, who made it and how it was answered. -/
structure Call (ι : Type) where
  caller : ι
  op : AppOp
  answer : Except PyError op.Res

namespace Flight

variable {ι α : Type} [DecidableEq ι]

/-- One request makes its next call. -/
inductive Move (world : World) (flight : Flight ι α) : Call ι → Flight ι α → Prop where
  | call (i : ι) (op : AppOp) (next : Except PyError op.Res → App α)
      (prog : flight.progs i = .call op next) (admitted : flight.site.admits i op = true) :
      Move world flight ⟨i, op, (flight.site.exec world i op).1⟩
        ⟨(flight.site.exec world i op).2,
          Function.update flight.progs i (next (flight.site.exec world i op).1)⟩

/-- The requests take turns, call by call, in any order. -/
inductive Run (world : World) (init : Flight ι α) : List (Call ι) → Flight ι α → Prop where
  | nil : Run world init [] init
  | snoc {trace : List (Call ι)} {flight flight' : Flight ι α} {call : Call ι}
      (run : Run world init trace flight) (move : Move world flight call flight') :
      Run world init (trace ++ [call]) flight'

/-- Every request has been answered. -/
def Finished (flight : Flight ι α) : Prop := ∀ i, ∃ a, flight.progs i = .ret a

/-- Let the requests take the turns of a schedule. -/
def play (world : World) : List ι → Flight ι α → Option (List (Call ι) × Flight ι α)
  | [], flight => some ([], flight)
  | i :: schedule, flight =>
    match flight.progs i with
    | .call op next =>
      let result := flight.site.exec world i op
      if flight.site.admits i op then
        (play world schedule ⟨result.2, Function.update flight.progs i (next result.1)⟩).map
          fun rest => (⟨i, op, result.1⟩ :: rest.1, rest.2)
      else none
    | _ => none

theorem Run.append {world : World} {init flight flight' : Flight ι α} {trace rest : List (Call ι)}
    (run : Run world init trace flight) (more : Run world flight rest flight') :
    Run world init (trace ++ rest) flight' := by
  induction more with
  | nil => rwa [List.append_nil]
  | snoc more move ih =>
    rw [← List.append_assoc]
    exact ih.snoc move

theorem run_of_play {world : World} {schedule : List ι} {flight final : Flight ι α}
    {trace : List (Call ι)} (h : play world schedule flight = some (trace, final)) :
    Run world flight trace final := by
  induction schedule generalizing flight trace with
  | nil =>
    cases h
    exact .nil
  | cons i schedule ih =>
    unfold play at h
    cases hprog : flight.progs i with
    | ret a => simp [hprog] at h
    | raise e => simp [hprog] at h
    | call op next =>
      simp only [hprog] at h
      by_cases hadmits : flight.site.admits i op = true
      · rw [if_pos hadmits, Option.map_eq_some_iff] at h
        obtain ⟨⟨rest, last⟩, hrest, hpair⟩ := h
        cases hpair
        exact (Run.nil.snoc (.call i op next hprog hadmits)).append (ih hrest)
      · rw [if_neg hadmits] at h
        cases h

end Flight

/-- Who made the last call of a kind. -/
def lastCaller {ι : Type} (kind : AppOp → Bool) (trace : List (Call ι)) : Option ι :=
  ((trace.filter fun call => kind call.op).getLast?).map Call.caller

section LastCaller

variable {ι : Type} {kind : AppOp → Bool} {trace : List (Call ι)} {call : Call ι}

theorem lastCaller_snoc (h : kind call.op = true) :
    lastCaller kind (trace ++ [call]) = some call.caller := by
  rw [lastCaller, List.filter_append, List.filter_singleton, h]
  simp

theorem lastCaller_snoc_other (h : kind call.op = false) :
    lastCaller kind (trace ++ [call]) = lastCaller kind trace := by
  rw [lastCaller, List.filter_append, List.filter_singleton, h, cond_false, List.append_nil,
    lastCaller]

/-- The request has made a call of the kind. -/
def HasCalled (kind : AppOp → Bool) (trace : List (Call ι)) (i : ι) : Prop :=
  ∃ call ∈ trace, kind call.op = true ∧ call.caller = i

theorem HasCalled.snoc {i : ι} (h : HasCalled kind trace i) :
    HasCalled kind (trace ++ [call]) i := by
  obtain ⟨made, hmem, hmade⟩ := h
  exact ⟨made, List.mem_append_left _ hmem, hmade⟩

theorem hasCalled_snoc_self (h : kind call.op = true) :
    HasCalled kind (trace ++ [call]) call.caller :=
  ⟨call, List.mem_append_right _ (List.mem_singleton_self _), h, rfl⟩

theorem HasCalled.exists_last {i : ι} (h : HasCalled kind trace i) :
    ∃ j, lastCaller kind trace = some j := by
  obtain ⟨made, hmem, hkind, -⟩ := h
  have hfilter : made ∈ trace.filter fun call => kind call.op := List.mem_filter.mpr ⟨hmem, hkind⟩
  obtain ⟨last, hlast⟩ := Option.ne_none_iff_exists'.mp
    (mt List.getLast?_eq_none_iff.mp (List.ne_nil_of_mem hfilter))
  exact ⟨last.caller, by rw [lastCaller, hlast]; rfl⟩

/-- All calls of `i` were made before those of `j`. -/
def DoneBefore (trace : List (Call ι)) (i j : ι) : Prop :=
  trace.Pairwise fun call later => ¬ (call.caller = j ∧ later.caller = i)

/-- No two requests overlap. -/
def InTurn (trace : List (Call ι)) : Prop :=
  ∀ i j, i ≠ j → DoneBefore trace i j ∨ DoneBefore trace j i

/-- A request that was done before another one does not have the last call of a kind that the
other one has made. -/
theorem DoneBefore.last_ne {i j : ι} (h : DoneBefore trace i j) (hj : HasCalled kind trace j)
    (hne : i ≠ j) : lastCaller kind trace ≠ some i := by
  intro hlast
  obtain ⟨made, hmem, hkind, rfl⟩ := hj
  obtain ⟨last, hgetLast, rfl⟩ := Option.map_eq_some_iff.mp hlast
  obtain ⟨earlier, hfilter⟩ := List.getLast?_eq_some_iff.mp hgetLast
  have hmade : made ∈ trace.filter fun call => kind call.op := List.mem_filter.mpr ⟨hmem, hkind⟩
  have hpairs := List.Pairwise.filter (fun call => kind call.op) h
  rw [hfilter] at hmade hpairs
  rcases List.mem_append.mp hmade with hmade | hmade
  · exact (List.pairwise_append.mp hpairs).2.2 made hmade last (List.mem_singleton_self _)
      ⟨rfl, rfl⟩
  · rw [List.mem_singleton.mp hmade] at hne
    exact hne rfl

/-- Where the requests do not overlap, the last one has the last call of every kind that all of
them make. -/
theorem InTurn.lastCaller_eq {kind' : AppOp → Bool} (h : InTurn trace)
    (hall : ∀ i, HasCalled kind trace i) (hall' : ∀ i, HasCalled kind' trace i) :
    lastCaller kind trace = lastCaller kind' trace := by
  by_cases hnone : ∃ i : ι, True
  · obtain ⟨i, -⟩ := hnone
    obtain ⟨first, hfirst⟩ := (hall i).exists_last
    obtain ⟨second, hsecond⟩ := (hall' i).exists_last
    rw [hfirst, hsecond]
    by_contra hne
    have hne : first ≠ second := fun heq => hne (congrArg some heq)
    rcases h first second hne with hbefore | hbefore
    · exact hbefore.last_ne (hall second) hne hfirst
    · exact hbefore.last_ne (hall' first) hne.symm hsecond
  · have hnil : trace = [] :=
      List.eq_nil_iff_forall_not_mem.mpr fun call _ => hnone ⟨call.caller, trivial⟩
    rw [hnil]
    rfl

end LastCaller

end TenantSaas
