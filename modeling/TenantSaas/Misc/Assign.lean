import Mathlib.Logic.Function.Basic

/-!
# Assigning a list of pairs to a map

Pairs are assigned in order, so that the last value of a key stands.  Where a pair is missing,
those before it stay assigned.
-/

namespace Assign

variable {κ ν ε : Type*}

/-! ## Pairs that may be missing -/

/-- The pairs before the first failure. -/
def readable : List (Except ε (κ × ν)) → List (κ × ν)
  | .ok pair :: reads => pair :: readable reads
  | _ => []

/-- All pairs, when none is missing. -/
def whole : List (Except ε (κ × ν)) → Option (List (κ × ν))
  | [] => some []
  | .ok pair :: reads => (whole reads).map (pair :: ·)
  | .error _ :: _ => none

variable {reads : List (Except ε (κ × ν))}

theorem readable_of_whole {pairs : List (κ × ν)} (h : whole reads = some pairs) :
    readable reads = pairs := by
  induction reads generalizing pairs with
  | nil =>
    cases h
    rfl
  | cons read reads ih =>
    cases read with
    | error e => cases h
    | ok pair =>
      obtain ⟨rest, hrest, rfl⟩ := Option.map_eq_some_iff.mp h
      exact congrArg (List.cons pair) (ih hrest)

/-! ## Assigning -/

section Assign

variable [DecidableEq κ]

/-- The map after the pairs are assigned. -/
def assign (entries : κ → Option ν) : List (κ × ν) → κ → Option ν
  | [] => entries
  | (key, value) :: pairs => assign (Function.update entries key (some value)) pairs

/-- The last value a key is given. -/
def last (pairs : List (κ × ν)) (key : κ) : Option ν := pairs.reverse.lookup key

variable {entries : κ → Option ν} {pairs : List (κ × ν)}

theorem last_cons (first : κ) (value : ν) (pairs : List (κ × ν)) (key : κ) :
    last ((first, value) :: pairs) key =
      (last pairs key).or (if key = first then some value else none) := by
  rw [last, List.reverse_cons, List.lookup_append, List.lookup_cons, List.lookup_nil]
  by_cases h : key = first
  · rw [if_pos h, beq_iff_eq.mpr h]
    rfl
  · rw [if_neg h, beq_eq_false_iff_ne.mpr h]
    rfl

theorem assign_apply (entries : κ → Option ν) (pairs : List (κ × ν)) (key : κ) :
    assign entries pairs key = (last pairs key).or (entries key) := by
  induction pairs generalizing entries with
  | nil => rfl
  | cons pair pairs ih =>
    rw [assign, ih, last_cons, Function.update_apply, Option.or_assoc]
    congr 1
    by_cases h : key = pair.1
    · rw [if_pos h, if_pos h]
      rfl
    · rw [if_neg h, if_neg h]
      rfl

/-- Nothing changes when every key gets back the value it has. -/
theorem assign_eq_self_iff : assign entries pairs = entries ↔
    ∀ key value, last pairs key = some value → entries key = some value := by
  rw [funext_iff]
  refine forall_congr' fun key => ?_
  rw [assign_apply]
  cases hlast : last pairs key with
  | none => simp
  | some value => simp [eq_comm]

/-- Each pair is read and assigned before the next one is read. -/
def assignEach (entries : κ → Option ν) : List (Except ε (κ × ν)) → Except ε Unit × (κ → Option ν)
  | [] => (.ok (), entries)
  | .ok (key, value) :: reads => assignEach (Function.update entries key (some value)) reads
  | .error e :: _ => (.error e, entries)

theorem assignEach_snd (entries : κ → Option ν) (reads : List (Except ε (κ × ν))) :
    (assignEach entries reads).2 = assign entries (readable reads) := by
  induction reads generalizing entries with
  | nil => rfl
  | cons read reads ih =>
    cases read with
    | ok pair => exact ih _
    | error e => rfl

theorem mem_of_assignEach_error {entries : κ → Option ν} {e : ε}
    (h : (assignEach entries reads).1 = .error e) : .error e ∈ reads := by
  induction reads generalizing entries with
  | nil => cases h
  | cons read reads ih =>
    cases read with
    | ok pair => exact List.mem_cons_of_mem _ (ih h)
    | error e' =>
      cases h
      exact List.mem_cons_self

end Assign

end Assign
