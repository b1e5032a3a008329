import Mathlib.Logic.Function.Basic
import Mathlib.Data.Fintype.Defs
import Mathlib.Tactic.Common

/-!
# Locks on one key

What transactions hold on one key of an index: the row, or the gap where a row would be.  Any
number may hold the gap at once, and an insert waits for all the others that do.
-/

/-- `record` holds the row; whoever holds it keeps everybody out, whatever the gap. -/
structure KeyLocks (ι : Type) where
  record : Option ι
  gap : ι → Bool

namespace KeyLocks

/-- A locking read, an insert, or a change of the row. -/
inductive Request where
  | read
  | insert
  | change
  deriving DecidableEq

variable {ι : Type}

def free : KeyLocks ι := ⟨none, fun _ => false⟩

/-- The request of `i` waits for `j`. -/
def WaitsFor (locks : KeyLocks ι) (request : Request) (i j : ι) : Prop :=
  j ≠ i ∧ (locks.record = some j ∨ request = .insert ∧ locks.gap j = true)

def Grants (locks : KeyLocks ι) (request : Request) (i : ι) : Prop :=
  ∀ j, ¬ locks.WaitsFor request i j

@[simp] theorem free_grants (request : Request) (i : ι) : free.Grants request i := by
  intro j hwaits
  rcases hwaits.2 with hrecord | ⟨-, hgap⟩
  · cases hrecord
  · cases hgap

/-- A held gap keeps the inserts of the others waiting. -/
theorem waitsFor_of_gap {locks : KeyLocks ι} {i j : ι} (hgap : locks.gap j = true) (hne : j ≠ i) :
    locks.WaitsFor .insert i j :=
  ⟨hne, .inr ⟨rfl, hgap⟩⟩

variable [DecidableEq ι]

instance (locks : KeyLocks ι) (request : Request) (i j : ι) :
    Decidable (locks.WaitsFor request i j) :=
  inferInstanceAs (Decidable (_ ∧ (_ ∨ _ ∧ _)))

instance [Fintype ι] (locks : KeyLocks ι) (request : Request) (i : ι) :
    Decidable (locks.Grants request i) :=
  inferInstanceAs (Decidable (∀ _, _))

/-- The row lock takes the place of the gap lock. -/
def takeRecord (locks : KeyLocks ι) (i : ι) : KeyLocks ι :=
  ⟨some i, Function.update locks.gap i false⟩

def takeGap (locks : KeyLocks ι) (i : ι) : KeyLocks ι :=
  ⟨locks.record, Function.update locks.gap i true⟩

/-- The end of a transaction. -/
def release (locks : KeyLocks ι) (i : ι) : KeyLocks ι :=
  ⟨if locks.record = some i then none else locks.record, Function.update locks.gap i false⟩

section Holders

variable {request : Request} {i j : ι}

theorem gap_takeGap (h : (free.takeGap i).gap j = true) : j = i := by
  by_contra hne
  have hgap : (free.takeGap i).gap j = false := Function.update_of_ne hne _ _
  rw [hgap] at h
  cases h

theorem gap_takeRecord (i j : ι) : (free.takeRecord i).gap j = false := by
  simp [free, takeRecord]

@[simp] theorem free_release (i : ι) : (free : KeyLocks ι).release i = free := by
  simp [free, release]

@[simp] theorem takeRecord_release (i : ι) : (free.takeRecord i).release i = free := by
  simp [free, takeRecord, release]

@[simp] theorem takeRecord_takeRecord (i : ι) :
    (free.takeRecord i).takeRecord i = free.takeRecord i := by
  simp [free, takeRecord]

@[simp] theorem takeGap_takeRecord (i : ι) :
    (free.takeGap i).takeRecord i = free.takeRecord i := by
  simp [free, takeGap, takeRecord]

theorem takeRecord_release_other (h : j ≠ i) :
    (free.takeRecord i).release j = free.takeRecord i := by
  have hne : ¬ i = j := Ne.symm h
  simp [free, takeRecord, release, hne]

theorem takeGap_release_other (h : j ≠ i) : (free.takeGap i).release j = free.takeGap i := by
  have hkept : Function.update (Function.update (fun _ : ι => false) i true) j false =
      Function.update (fun _ : ι => false) i true := by
    rw [Function.update_eq_self_iff, Function.update_of_ne h]
  simp [free, takeGap, release, hkept]

/-- Whoever holds the row waits for nobody. -/
theorem takeRecord_grants (request : Request) (i : ι) :
    (free.takeRecord i).Grants request i := by
  intro j hwaits
  rcases hwaits.2 with hrecord | ⟨-, hgap⟩
  · exact hwaits.1 (Option.some.inj hrecord).symm
  · rw [gap_takeRecord] at hgap
    cases hgap

/-- Nor does the only one that holds the gap. -/
theorem takeGap_grants (request : Request) (i : ι) : (free.takeGap i).Grants request i := by
  intro j hwaits
  rcases hwaits.2 with hrecord | ⟨-, hgap⟩
  · cases hrecord
  · exact hwaits.1 (gap_takeGap hgap)

/-- While one holds the row the others wait. -/
theorem holder_of_grants (h : (free.takeRecord j).Grants request i) : i = j := by
  by_contra hne
  exact h j ⟨Ne.symm hne, .inl rfl⟩

/-- Nobody waits for each other while only one holds locks. -/
theorem no_cycle {locks : KeyLocks ι} {request' : Request}
    (h : locks = free ∨ (∃ k, locks = free.takeGap k) ∨ ∃ k, locks = free.takeRecord k)
    (hij : locks.WaitsFor request i j) (hji : locks.WaitsFor request' j i) : False := by
  rcases h with rfl | ⟨k, rfl⟩ | ⟨k, rfl⟩
  · exact free_grants request i j hij
  · by_cases hi : i = k
    · exact takeGap_grants request k j (hi ▸ hij)
    · rcases hji.2 with hrecord | ⟨-, hgap⟩
      · cases hrecord
      · exact hi (gap_takeGap hgap)
  · by_cases hi : i = k
    · exact takeRecord_grants request k j (hi ▸ hij)
    · rcases hji.2 with hrecord | ⟨-, hgap⟩
      · exact hi (Option.some.inj hrecord).symm
      · rw [gap_takeRecord] at hgap
        cases hgap

end Holders

end KeyLocks
