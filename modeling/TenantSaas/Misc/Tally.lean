import Mathlib.Algebra.Order.Group.Multiset

/-!
# Recording an entry and counting it later

A book of entries and a running count are kept in two places.  An entry is first
recorded and owes one count; the owed count is either made or lost.  The count never
exceeds the book, and once nothing is owed the two agree exactly when nothing was lost.
-/

/-- `recorded` is the book, `counted` what the running count has absorbed; `pending`
entries still owe their count and `lost` entries never will be counted. -/
structure Tally (ρ : Type*) where
  recorded : Multiset ρ
  counted : Multiset ρ
  pending : Multiset ρ
  lost : Multiset ρ

namespace Tally

variable {ρ : Type*}

def empty : Tally ρ := ⟨0, 0, 0, 0⟩

inductive Step : Tally ρ → Tally ρ → Prop where
  | record (r : ρ) (recorded counted pending lost : Multiset ρ) :
      Step ⟨recorded, counted, pending, lost⟩ ⟨r ::ₘ recorded, counted, r ::ₘ pending, lost⟩
  | count (r : ρ) (recorded counted pending lost : Multiset ρ) :
      Step ⟨recorded, counted, r ::ₘ pending, lost⟩ ⟨recorded, r ::ₘ counted, pending, lost⟩
  | lose (r : ρ) (recorded counted pending lost : Multiset ρ) :
      Step ⟨recorded, counted, r ::ₘ pending, lost⟩ ⟨recorded, counted, pending, r ::ₘ lost⟩

inductive Reachable : Tally ρ → Prop where
  | empty : Reachable empty
  | step {t t' : Tally ρ} (reach : Reachable t) (step : Step t t') : Reachable t'

/-- Every entry of the book is counted, owed or lost. -/
def Balanced (t : Tally ρ) : Prop := t.recorded = t.counted + t.pending + t.lost

theorem step_balanced {t t' : Tally ρ} (step : Step t t') (balanced : t.Balanced) :
    t'.Balanced := by
  cases step with
  | record r recorded counted pending lost =>
    simp only [Balanced] at balanced ⊢
    rw [balanced, Multiset.add_cons, Multiset.cons_add]
  | count r recorded counted pending lost =>
    simp only [Balanced] at balanced ⊢
    rw [balanced, Multiset.add_cons, Multiset.cons_add, Multiset.cons_add, Multiset.cons_add]
  | lose r recorded counted pending lost =>
    simp only [Balanced] at balanced ⊢
    rw [balanced, Multiset.add_cons, Multiset.cons_add, Multiset.add_cons]

theorem Reachable.balanced {t : Tally ρ} (reach : Reachable t) : t.Balanced := by
  induction reach with
  | empty => rfl
  | step _ step ih => exact step_balanced step ih

theorem Reachable.counted_le {t : Tally ρ} (reach : Reachable t) : t.counted ≤ t.recorded := by
  rw [reach.balanced, Multiset.add_assoc]
  exact Multiset.le_add_right _ _

/-- Once no count is owed, the count and the book agree exactly when nothing was lost. -/
theorem Reachable.counted_eq_iff {t : Tally ρ} (reach : Reachable t) (settled : t.pending = 0) :
    t.counted = t.recorded ↔ t.lost = 0 := by
  rw [reach.balanced, settled, Multiset.add_zero]
  exact ⟨fun h => add_eq_left.mp h.symm, fun h => by rw [h, Multiset.add_zero]⟩

end Tally
