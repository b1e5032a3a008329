import Mathlib.Data.List.Nodup

/-!
# Entries under keys

Entries that keep their places: a change of those under a key, which may add one at the end.
-/

namespace Entries

variable {κ α β : Type*} [DecidableEq κ]

/-- The entries under a key are changed. -/
def changeAt (key : κ) (change : α → α) (entries : List (κ × α)) : List (κ × α) :=
  entries.map fun entry => if entry.1 = key then (entry.1, change entry.2) else entry

/-- The entry under a key is changed, or a new one added at the end. -/
def addOrChange (key : κ) (new : α) (change : α → α) (entries : List (κ × α)) : List (κ × α) :=
  if key ∈ entries.map Prod.fst then changeAt key change entries else entries ++ [(key, new)]

variable {key : κ} {new : α} {change : α → α} {entries : List (κ × α)}

theorem keys_changeAt : (changeAt key change entries).map Prod.fst = entries.map Prod.fst := by
  rw [changeAt, List.map_map]
  refine List.map_congr_left fun entry _ => ?_
  simp only [Function.comp_apply]
  split <;> rfl

theorem mem_changeAt {entry : κ × α} (h : entry ∈ changeAt key change entries) :
    entry ∈ entries ∨ ∃ old ∈ entries, entry = (old.1, change old.2) := by
  obtain ⟨old, hold, rfl⟩ := List.mem_map.mp h
  split
  · exact .inr ⟨old, hold, rfl⟩
  · exact .inl hold

theorem nodup_addOrChange (h : (entries.map Prod.fst).Nodup) :
    ((addOrChange key new change entries).map Prod.fst).Nodup := by
  unfold addOrChange
  split
  · rwa [keys_changeAt]
  · rename_i hmissing
    rw [List.map_append, List.nodup_append]
    refine ⟨h, List.nodup_singleton _, fun a ha b hb => ?_⟩
    obtain rfl := List.mem_singleton.mp hb
    rintro rfl
    exact hmissing ha

theorem mem_addOrChange {entry : κ × α} (h : entry ∈ addOrChange key new change entries) :
    entry ∈ entries ∨ (∃ old ∈ entries, entry = (old.1, change old.2)) ∨ entry = (key, new) := by
  unfold addOrChange at h
  split at h
  · exact (mem_changeAt h).imp_right .inl
  · exact (List.mem_append.mp h).imp_right fun hnew => .inr (List.mem_singleton.mp hnew)

/-- A function of the values goes through a change that it respects. -/
theorem map_changeAt {f : α → β} (change' : β → β) (hf : ∀ a, f (change a) = change' (f a)) :
    (changeAt key change entries).map (Prod.map id f) =
      changeAt key change' (entries.map (Prod.map id f)) := by
  rw [changeAt, changeAt, List.map_map, List.map_map]
  refine List.map_congr_left fun entry _ => ?_
  simp only [Function.comp_apply, Prod.map_fst, id_eq]
  split <;> simp [Prod.map, hf]

theorem map_addOrChange {f : α → β} (change' : β → β) (hf : ∀ a, f (change a) = change' (f a)) :
    (addOrChange key new change entries).map (Prod.map id f) =
      addOrChange key (f new) change' (entries.map (Prod.map id f)) := by
  have hkeys : (entries.map (Prod.map id f)).map Prod.fst = entries.map Prod.fst := by
    rw [List.map_map]
    rfl
  unfold addOrChange
  rw [hkeys]
  split
  · exact map_changeAt change' hf
  · rw [List.map_append]
    rfl

end Entries
