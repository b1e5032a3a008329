import Mathlib.Algebra.Order.Group.Defs
import Mathlib.Algebra.Order.Group.Basic

/-!
# A cache of values that expire

What a source held at some time is kept with that time, and given out again for less than a
time to live.  The source changes as it likes.
-/

namespace TtlCache

/-- A value, and when it was fetched. -/
structure Entry (V T : Type*) where
  value : V
  fetchedAt : T

variable {K V T : Type*} [LinearOrder T]

/-- Every entry is what the source held under its key when it was fetched, at `now` or before. -/
structure Sound (held : T → K → V → Prop) (now : T) (entries : K → Option (Entry V T)) : Prop where
  held : ∀ key entry, entries key = some entry → held entry.fetchedAt key entry.value
  past : ∀ key entry, entries key = some entry → entry.fetchedAt ≤ now

section Sound

variable {held : T → K → V → Prop} {now later : T} {entries entries' : K → Option (Entry V T)}

theorem sound_empty (held : T → K → V → Prop) (now : T) : Sound held now fun _ => none where
  held _ _ h := by cases h
  past _ _ h := by cases h

theorem Sound.mono (h : Sound held now entries) (le : now ≤ later) : Sound held later entries where
  held := h.held
  past key entry hentry := (h.past key entry hentry).trans le

/-- An entry fetched just now takes the place of the one under its key. -/
theorem Sound.set (h : Sound held now entries) {key : K} {value : V} (hheld : held now key value)
    (hset : ∀ k entry, entries' k = some entry →
      k = key ∧ entry = ⟨value, now⟩ ∨ entries k = some entry) : Sound held now entries' where
  held k entry hentry := by
    rcases hset k entry hentry with ⟨rfl, rfl⟩ | hold
    · exact hheld
    · exact h.held k entry hold
  past k entry hentry := by
    rcases hset k entry hentry with ⟨rfl, rfl⟩ | hold
    · exact le_rfl
    · exact h.past k entry hold

section Age

variable [AddCommGroup T] [IsOrderedAddMonoid T] {ttl : T}

/-- An entry that has not expired was held less than a time to live ago. -/
theorem Sound.fresh (h : Sound held now entries) {key : K} {entry : Entry V T}
    (hentry : entries key = some entry) {t : T} (unexpired : t - entry.fetchedAt < ttl) :
    ∃ moment, t - ttl < moment ∧ moment ≤ now ∧ held moment key entry.value :=
  ⟨entry.fetchedAt, sub_lt_comm.mp unexpired, h.past key entry hentry, h.held key entry hentry⟩

/-- What was held less than a time to live ago was held after a change that is older. -/
theorem after_change {key : K} {value : V} {changed t stop : T} (P : V → Prop)
    (old : changed + ttl ≤ t)
    (hchanged : ∀ moment, changed ≤ moment → moment ≤ stop → ∀ v, held moment key v → P v)
    (hmoment : ∃ moment, t - ttl < moment ∧ moment ≤ stop ∧ held moment key value) : P value := by
  obtain ⟨moment, hrecent, hstop, hheld⟩ := hmoment
  have hlower : changed ≤ t - ttl := le_sub_iff_add_le.mpr old
  exact hchanged moment (hlower.trans hrecent.le) hstop value hheld

end Age

end Sound

end TtlCache
