import Mathlib.Data.List.Nodup

/-!
# Directories

Entries under keys, where two keys are alike when a norm sends them to the same value.  An
entry may also carry a name; who asks for an entry by a name that no entry has is sent to the
entry with that name as its key.
-/

namespace Directory

variable {κ ν α : Type*} {norm : κ → ν}

/-- No two entries have keys alike. -/
def Keyed (norm : κ → ν) (entries : List (κ × α)) : Prop :=
  (entries.map fun entry => norm entry.1).Nodup

theorem Keyed.eq_of_alike {entries : List (κ × α)} (h : Keyed norm entries) {entry other : κ × α}
    (hentry : entry ∈ entries) (hother : other ∈ entries)
    (halike : norm entry.1 = norm other.1) : entry = other :=
  List.inj_on_of_nodup_map h hentry hother halike

/-- An entry is put under a key: the one that is there is changed, or a new one added. -/
inductive Put [DecidableEq ν] (norm : κ → ν) (key : κ) (new : α) (change : α → α)
    (entries : List (κ × α)) : List (κ × α) → Prop
  | changed (h : ∃ entry ∈ entries, norm entry.1 = norm key) :
      Put norm key new change entries (entries.map fun entry =>
        if norm entry.1 = norm key then (entry.1, change entry.2) else entry)
  | added (h : ∀ entry ∈ entries, norm entry.1 ≠ norm key) :
      Put norm key new change entries (entries ++ [(key, new)])

section Entries

variable [DecidableEq ν] {key : κ} {new : α} {change : α → α} {entries entries' : List (κ × α)}

theorem Put.keyed (h : Put norm key new change entries entries') (keyed : Keyed norm entries) :
    Keyed norm entries' := by
  unfold Keyed at keyed ⊢
  cases h with
  | changed _ =>
    rw [List.map_map]
    have hsame : ((fun entry : κ × α => norm entry.1) ∘ fun entry =>
        if norm entry.1 = norm key then (entry.1, change entry.2) else entry) =
        fun entry => norm entry.1 := by
      funext entry
      simp only [Function.comp_apply]
      split <;> rfl
    rw [hsame]
    exact keyed
  | added hfresh =>
    rw [List.map_append, List.nodup_append]
    refine ⟨keyed, List.nodup_singleton _, ?_⟩
    intro a ha b hb
    obtain ⟨entry, hentry, rfl⟩ := List.mem_map.mp ha
    obtain rfl := List.mem_singleton.mp hb
    exact hfresh entry hentry

/-- An entry is the one that was put, or an old one with another key. -/
theorem Put.mem (h : Put norm key new change entries entries') {entry : κ × α}
    (hentry : entry ∈ entries') :
    (entry ∈ entries ∧ norm entry.1 ≠ norm key) ∨
      (∃ old ∈ entries, norm old.1 = norm key ∧ entry = (old.1, change old.2)) ∨
      (∀ old ∈ entries, norm old.1 ≠ norm key) ∧ entry = (key, new) := by
  cases h with
  | changed _ =>
    obtain ⟨old, hold, rfl⟩ := List.mem_map.mp hentry
    by_cases hsame : norm old.1 = norm key
    · rw [if_pos hsame]
      exact .inr (.inl ⟨old, hold, hsame, rfl⟩)
    · rw [if_neg hsame]
      exact .inl ⟨hold, hsame⟩
  | added hfresh =>
    rcases List.mem_append.mp hentry with hold | hnew
    · exact .inl ⟨hold, hfresh entry hold⟩
    · exact .inr (.inr ⟨hfresh, List.mem_singleton.mp hnew⟩)

/-- There is an entry under the key now. -/
theorem Put.exists_key (h : Put norm key new change entries entries') :
    ∃ entry ∈ entries', norm entry.1 = norm key := by
  cases h with
  | changed hfound =>
    obtain ⟨entry, hentry, hsame⟩ := hfound
    refine ⟨(entry.1, change entry.2), List.mem_map.mpr ⟨entry, hentry, ?_⟩, hsame⟩
    rw [if_pos hsame]
  | added _ => exact ⟨(key, new), by simp, rfl⟩

/-- The keys stay. -/
theorem Put.keeps_key (h : Put norm key new change entries entries') {entry : κ × α}
    (hentry : entry ∈ entries) : ∃ entry' ∈ entries', entry'.1 = entry.1 := by
  cases h with
  | changed _ =>
    refine ⟨_, List.mem_map_of_mem hentry, ?_⟩
    split <;> rfl
  | added _ => exact ⟨entry, List.mem_append_left _ hentry, rfl⟩

end Entries

/-! ## Entries with a name and an owner -/

section Owners

variable (norm) (name : α → κ) (users : Set κ)

/-- An entry is a user's when it has the user's name, or nobody's and the user's as its key. -/
def Owns (user : κ) (entry : κ × α) : Prop :=
  norm (name entry.2) = norm user ∨
    norm entry.1 = norm user ∧ ∀ v ∈ users, norm (name entry.2) ≠ norm v

/-- Every entry is some user's, none has two, and only who has one finds their name as a key. -/
structure Orderly (entries : List (κ × α)) : Prop where
  keyed : Keyed norm entries
  owned : ∀ entry ∈ entries, ∃ user ∈ users, Owns norm name users user entry
  single : ∀ user ∈ users, ∀ entry ∈ entries, ∀ other ∈ entries,
    Owns norm name users user entry → Owns norm name users user other → entry = other
  reserved : ∀ user ∈ users, ∀ entry ∈ entries, norm entry.1 = norm user →
    ∃ other ∈ entries, Owns norm name users user other

/-- The key is that of the user's entry, or the user's name when there is none. -/
structure SentTo (user key : κ) (entries : List (κ × α)) : Prop where
  owner : ∀ entry ∈ entries, Owns norm name users user entry → norm key = norm entry.1
  stranger : (∀ entry ∈ entries, ¬ Owns norm name users user entry) → norm key = norm user

/-- The key of the entry with a name, or else the name. -/
def resolve [DecidableEq ν] (user : κ) (entries : List (κ × α)) : κ :=
  ((entries.find? fun entry => decide (norm (name entry.2) = norm user)).map Prod.fst).getD user

end Owners

section Resolving

variable {name : α → κ} {users : Set κ} {entries entries' : List (κ × α)} {user : κ}

theorem Owns.of_alike {other : κ} {entry : κ × α} (h : Owns norm name users user entry)
    (halike : norm user = norm other) : Owns norm name users other entry := by
  unfold Owns at h ⊢
  rw [← halike]
  exact h

/-- Users who own one entry are alike. -/
theorem Owns.alike {other : κ} {entry : κ × α} (h : Owns norm name users user entry)
    (hother : Owns norm name users other entry) (huser : user ∈ users) (hothers : other ∈ users) :
    norm user = norm other := by
  rcases h with hname | ⟨hkey, hnone⟩
  · rcases hother with hname' | ⟨-, hnone'⟩
    · rw [← hname, hname']
    · exact absurd hname (hnone' user huser)
  · rcases hother with hname' | ⟨hkey', -⟩
    · exact absurd hname' (hnone other hothers)
    · rw [← hkey, hkey']

/-- A user is sent to one key only. -/
theorem SentTo.alike {key key' : κ} (sent : SentTo norm name users user key entries)
    (sent' : SentTo norm name users user key' entries) : norm key = norm key' := by
  by_cases hmine : ∃ entry ∈ entries, Owns norm name users user entry
  · obtain ⟨entry, hentry, howns⟩ := hmine
    rw [sent.owner entry hentry howns, sent'.owner entry hentry howns]
  · have hnone : ∀ entry ∈ entries, ¬ Owns norm name users user entry :=
      fun entry hentry howns => hmine ⟨entry, hentry, howns⟩
    rw [sent.stranger hnone, sent'.stranger hnone]

theorem orderly_nil : Orderly norm name users ([] : List (κ × α)) where
  keyed := List.nodup_nil
  owned := List.forall_mem_nil _
  single _ _ := List.forall_mem_nil _
  reserved _ _ := List.forall_mem_nil _

/-- A stranger finds no entry under the key they are sent to. -/
theorem Orderly.owns_of_sentTo (h : Orderly norm name users entries) (huser : user ∈ users)
    {key : κ} (sent : SentTo norm name users user key entries) {entry : κ × α}
    (hentry : entry ∈ entries) :
    Owns norm name users user entry ↔ norm entry.1 = norm key := by
  constructor
  · intro howns
    exact (sent.owner entry hentry howns).symm
  · intro hkey
    by_cases hmine : ∃ mine ∈ entries, Owns norm name users user mine
    · obtain ⟨mine, hmem, howns⟩ := hmine
      rw [h.keyed.eq_of_alike hentry hmem (hkey.trans (sent.owner mine hmem howns))]
      exact howns
    · have hnone : ∀ other ∈ entries, ¬ Owns norm name users user other :=
        fun other hother howns => hmine ⟨other, hother, howns⟩
      obtain ⟨other, hother, howns⟩ :=
        h.reserved user huser entry hentry (hkey.trans (sent.stranger hnone))
      exact absurd howns (hnone other hother)

/-- Two users who are sent to one entry are alike. -/
theorem Orderly.alike_of_sentTo (h : Orderly norm name users entries) {other key key' : κ}
    (huser : user ∈ users) (hother : other ∈ users)
    (sent : SentTo norm name users user key entries)
    (sent' : SentTo norm name users other key' entries) (halike : norm key = norm key')
    {entry : κ × α} (hentry : entry ∈ entries) (hkey : norm entry.1 = norm key) :
    norm user = norm other := by
  have howns := (h.owns_of_sentTo huser sent hentry).mpr hkey
  have howns' := (h.owns_of_sentTo hother sent' hentry).mpr (hkey.trans halike)
  exact howns.alike howns' huser hother

variable [DecidableEq ν]

/-- Who asks by name is sent to the own entry. -/
theorem Orderly.resolve_sentTo (h : Orderly norm name users entries) (huser : user ∈ users) :
    SentTo norm name users user (resolve norm name user entries) entries := by
  unfold resolve
  cases hfound : entries.find? fun entry => decide (norm (name entry.2) = norm user) with
  | some found =>
    have hmem := List.mem_of_find?_eq_some hfound
    have howns : Owns norm name users user found := .inl (by simpa using List.find?_some hfound)
    refine ⟨fun entry hentry hmine => ?_, fun hnone => absurd howns (hnone found hmem)⟩
    rw [h.single user huser entry hentry found hmem hmine howns]
    rfl
  | none =>
    refine ⟨fun entry hentry hmine => ?_, fun _ => rfl⟩
    have hnone : norm (name entry.2) ≠ norm user := by
      simpa using List.find?_eq_none.mp hfound entry hentry
    rcases hmine with hname | ⟨hkey, -⟩
    · exact absurd hname hnone
    · exact hkey.symm

section Put

variable {key : κ} {new : α} {change : α → α}

/-- What a user may put under a key: the user's entries are those there, and stay the user's; a
new key is the user's name, or is nobody's who has no entry. -/
structure Puts (norm : κ → ν) (name : α → κ) (users : Set κ) (user key : κ) (new : α)
    (change : α → α) (entries : List (κ × α)) : Prop where
  home : ∀ entry ∈ entries, Owns norm name users user entry ↔ norm entry.1 = norm key
  change : ∀ entry ∈ entries, norm entry.1 = norm key →
    Owns norm name users user (entry.1, change entry.2)
  new : (∀ entry ∈ entries, norm entry.1 ≠ norm key) → Owns norm name users user (key, new)
  reserved : (∀ entry ∈ entries, norm entry.1 ≠ norm key) → ∀ v ∈ users, norm key = norm v →
    norm v = norm user ∨ ∃ entry ∈ entries, Owns norm name users v entry

variable (hputs : Puts norm name users user key new change entries)
  (hput : Put norm key new change entries entries')

include hputs hput

/-- The entries under the key are the user's. -/
theorem Puts.owns {entry : κ × α} (hentry : entry ∈ entries') (hkey : norm entry.1 = norm key) :
    Owns norm name users user entry := by
  rcases hput.mem hentry with ⟨-, hne⟩ | ⟨old, hold, hsame, rfl⟩ | ⟨hfresh, rfl⟩
  · exact absurd hkey hne
  · exact hputs.change old hold hsame
  · exact hputs.new hfresh

/-- What somebody owned they own still, under its key. -/
theorem Puts.keeps {v : κ} {entry : κ × α} (hv : v ∈ users) (huser : user ∈ users)
    (hentry : entry ∈ entries) (howns : Owns norm name users v entry) :
    ∃ entry' ∈ entries', entry'.1 = entry.1 ∧ Owns norm name users v entry' := by
  by_cases hkey : norm entry.1 = norm key
  · obtain ⟨entry', hentry', hsame⟩ := hput.keeps_key hentry
    refine ⟨entry', hentry', hsame, ?_⟩
    have hmine := (hputs.home entry hentry).mpr hkey
    have halike : norm user = norm v := hmine.alike howns huser hv
    exact (hputs.owns hput hentry' (by rw [hsame]; exact hkey)).of_alike halike
  · refine ⟨entry, ?_, rfl, howns⟩
    cases hput with
    | changed _ =>
      refine List.mem_map.mpr ⟨entry, hentry, ?_⟩
      rw [if_neg hkey]
    | added _ => exact List.mem_append_left _ hentry

theorem Orderly.put (h : Orderly norm name users entries) (huser : user ∈ users) :
    Orderly norm name users entries' := by
  have hkeyed := hput.keyed h.keyed
  have hold : ∀ entry ∈ entries', norm entry.1 ≠ norm key → entry ∈ entries := by
    intro entry hentry hne
    rcases hput.mem hentry with ⟨hold, -⟩ | ⟨old, -, hsame, rfl⟩ | ⟨-, rfl⟩
    · exact hold
    · exact absurd hsame hne
    · exact absurd rfl hne
  have hsame : ∀ entry ∈ entries', ∀ owner ∈ users, Owns norm name users owner entry →
      norm owner = norm user → norm entry.1 = norm key := by
    intro entry hentry owner howner howned halike
    by_contra hne
    exact hne ((hputs.home entry (hold entry hentry hne)).mp (howned.of_alike halike))
  refine ⟨hkeyed, fun entry hentry => ?_,
    fun owner howner entry hentry other hother hown hown' => ?_,
    fun v hv entry hentry hkey => ?_⟩
  · by_cases hkey : norm entry.1 = norm key
    · exact ⟨user, huser, hputs.owns hput hentry hkey⟩
    · exact h.owned entry (hold entry hentry hkey)
  · by_cases halike : norm owner = norm user
    · refine hkeyed.eq_of_alike hentry hother ?_
      rw [hsame entry hentry owner howner hown halike, hsame other hother owner howner hown' halike]
    · have hne : ∀ entry ∈ entries', Owns norm name users owner entry → norm entry.1 ≠ norm key :=
        fun entry hentry hown hkey =>
          halike (hown.alike (hputs.owns hput hentry hkey) howner huser)
      exact h.single owner howner entry (hold entry hentry (hne entry hentry hown)) other
        (hold other hother (hne other hother hown')) hown hown'
  · have hkept : (∃ old ∈ entries, Owns norm name users v old) →
        ∃ other ∈ entries', Owns norm name users v other := by
      intro h'
      obtain ⟨old, hmem, howns⟩ := h'
      obtain ⟨other, hother, -, howns'⟩ := hputs.keeps hput hv huser hmem howns
      exact ⟨other, hother, howns'⟩
    rcases hput.mem hentry with ⟨hmem, -⟩ | ⟨old, hmem, -, rfl⟩ | ⟨hfresh, rfl⟩
    · exact hkept (h.reserved v hv entry hmem hkey)
    · exact hkept (h.reserved v hv old hmem hkey)
    · rcases hputs.reserved hfresh v hv hkey with halike | hmine
      · exact ⟨_, hentry, (hputs.new hfresh).of_alike halike.symm⟩
      · exact hkept hmine

/-- Who was sent to a key still is. -/
theorem SentTo.put {v dest : κ} (sent : SentTo norm name users v dest entries)
    (huser : user ∈ users) (hv : v ∈ users) (hkey : norm v = norm user → norm dest = norm key) :
    SentTo norm name users v dest entries' := by
  refine ⟨fun entry hentry howns => ?_, fun hnone => ?_⟩
  · by_cases halike : norm v = norm user
    · have hsame : norm entry.1 = norm key := by
        rcases hput.mem hentry with ⟨hold, hne⟩ | ⟨old, -, hsame, rfl⟩ | ⟨-, rfl⟩
        · exact (hputs.home entry hold).mp (howns.of_alike halike)
        · exact hsame
        · rfl
      rw [hkey halike, hsame]
    · rcases hput.mem hentry with ⟨hold, -⟩ | ⟨old, hold, hsame, rfl⟩ | ⟨hfresh, rfl⟩
      · exact sent.owner entry hold howns
      · exact absurd (howns.alike (hputs.change old hold hsame) hv huser) halike
      · exact absurd (howns.alike (hputs.new hfresh) hv huser) halike
  · refine sent.stranger fun entry hentry howns => ?_
    obtain ⟨entry', hentry', -, howns'⟩ := hputs.keeps hput hv huser hentry howns
    exact hnone entry' hentry' howns'

end Put

end Resolving

end Directory
