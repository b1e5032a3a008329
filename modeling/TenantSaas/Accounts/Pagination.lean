import Mathlib.Algebra.Order.Floor.Semiring
import Mathlib.Data.Rat.Floor
import TenantSaas.Accounts.UserLists

/-!
# Pages of a user list

`list_users` cuts the rows that match into pages.  Each page is a request of its own, so the
count, the offset and the order have to agree from one request to the next.
-/

namespace TenantSaas

/-! ## Cutting a list -/

section Cutting

variable {α : Type} {rows : List α} {size total page : Nat}

/-- `total_pages` is the quotient rounded up, and at least one. -/
theorem totalPages_eq_ceil (total : Nat) (hsize : 1 ≤ size) :
    totalPages total size = max 1 ⌈(total : ℚ) / size⌉₊ := by
  have hpos : (0 : ℚ) < size := by exact_mod_cast hsize
  have hceil : (total + size - 1) / size = ⌈(total : ℚ) / size⌉₊ := by
    apply eq_of_forall_ge_iff
    intro k
    have hle : (total : ℚ) / size ≤ k ↔ total ≤ k * size := by
      rw [div_le_iff₀ hpos]
      exact_mod_cast Iff.rfl
    rw [Nat.ceil_le, hle, ← Nat.lt_succ_iff, Nat.div_lt_iff_lt_mul hsize, Nat.succ_mul]
    omega
  rw [totalPages, hceil]

/-- A page before the last is full. -/
theorem page_full (hpage : 1 ≤ page) (hlast : page < totalPages rows.length size) :
    ((rows.drop ((page - 1) * size)).take size).length = size := by
  have hpages : page * size ≤ rows.length := by
    rw [totalPages, lt_max_iff] at hlast
    have hdiv : page < (rows.length + size - 1) / size := hlast.resolve_left (by omega)
    cases Nat.eq_zero_or_pos size with
    | inl hzero => simp [hzero]
    | inr hsize =>
      have hmul : (page + 1) * size ≤ rows.length + size - 1 :=
        (Nat.le_div_iff_mul_le hsize).mp hdiv
      rw [Nat.succ_mul] at hmul
      omega
  have hstart : page * size = (page - 1) * size + size := by
    rw [← Nat.succ_mul, Nat.succ_eq_add_one, Nat.sub_add_cancel hpage]
  rw [List.length_take, List.length_drop]
  omega

/-- There is nothing after the last page. -/
theorem page_beyond (hsize : 1 ≤ size) (hbeyond : totalPages rows.length size < page) :
    (rows.drop ((page - 1) * size)).take size = [] := by
  have hcovered := @le_totalPages_mul rows.length size hsize
  have hmul := Nat.mul_le_mul_right size (Nat.le_sub_one_of_lt hbeyond)
  rw [List.drop_eq_nil_of_le (hcovered.trans hmul), List.take_nil]

end Cutting

/-! ## The answers -/

/-- `ORDER BY username` is a linear order of the texts that the collation keeps apart. -/
structure UsernameOrder (mysql : MySql) : Prop where
  total : ∀ a b, mysql.le a b = true ∨ mysql.le b a = true
  trans : ∀ a b c, mysql.le a b = true → mysql.le b c = true → mysql.le a c = true
  antisymm : ∀ a b, mysql.le a b = true → mysql.le b a = true → mysql.eq a b = true

/-- No two rows have one username, as the branch compares them. -/
def UniqueNames (config : Config) (world : World) (rows : Table) : Prop :=
  rows.Pairwise fun row row' => sameText config world row.username row'.username = false

/-- The rows a search shows. -/
def matching (config : Config) (world : World) (lower : String → String) (search : String)
    (row : UserRow) : Bool :=
  if config.demoMode then
    search == "" || PyStr.contains (lower row.username) (lower search) ||
      PyStr.contains (lower row.email) (lower search)
  else world.mysql.matchesLike ("%" ++ search ++ "%") row

/-- The pages of an answer cut the rows that match into equal parts. -/
structure Paginated (config : Config) (world : World) (lower : String → String) (search : String)
    (pageSize : Nat) (rows : Table) (answer : Nat → UserList) : Prop where
  complete : (allPages answer).Perm (rows.filter (matching config world lower search))
  once : (allPages answer).Nodup
  inserted : config.demoMode = true →
    allPages answer = rows.filter (matching config world lower search)
  sorted : config.demoMode = false → (allPages answer).Pairwise fun row row' =>
    world.mysql.le row.username row'.username = true ∧
      world.mysql.le row'.username row.username = false
  total : ∀ page, 1 ≤ page → (answer page).total = (allPages answer).length
  totalPages : ∀ page, 1 ≤ page →
    (answer page).totalPages = max 1 ⌈((answer page).total : ℚ) / pageSize⌉₊
  full : ∀ page, 1 ≤ page → page < (answer 1).totalPages → (answer page).rows.length = pageSize
  beyond : ∀ page, (answer 1).totalPages < page → (answer page).rows = []

/-- What the branch shows, before it is cut. -/
def shownRows (config : Config) (world : World) (lower : String → String) (search : String)
    (rows : Table) : List UserRow :=
  if config.demoMode then demoShown lower search rows else realShown world.mysql search rows

section Answers

variable {config : Config} {world : World} {lower : String → String} {tenant search : String}
  {page pageSize : Nat} {rows : Table} {s t : AppState} {data : UserList}

/-- A read in a connection that returned did not fail. -/
theorem read_ok {op : AppOp} {a : op.Res} (h : world.run (perform op) s = (.ok a, t)) :
    (world.answer s op).1 = .ok a ∧ t = { (world.answer s op).2 with tick := s.tick + 1 } := by
  rw [World.run_perform] at h
  exact (World.answer_of_exec h).2

theorem listUsers_real_ok (demo : config.demoMode = false)
    (h : world.run (listUsers config lower tenant search page pageSize) s = (.ok data, t)) :
    data = realAnswer world.mysql search ((keyedRows config tenant s).map Prod.snd) page
      pageSize := by
  unfold listUsers at h
  rw [if_neg (by simp [demo])] at h
  cases htable : tableForTenant tenant with
  | error e =>
    rw [htable] at h
    cases h
  | ok table =>
    have hrows : (keyedRows config tenant s).map Prod.snd = s.rds.committed table := by
      rw [keyedRows_real demo htable, List.map_map]
      exact List.map_id _
    rw [htable] at h
    change world.run (withConnection _) s = _ at h
    cases hconnect : world.failure s .connect with
    | some e =>
      rw [run_withConnection_of_failure hconnect] at h
      cases h
    | none =>
      rw [run_withConnection hconnect] at h
      obtain ⟨hbody, -⟩ := Prod.mk.inj h
      obtain ⟨total, v, htotal, hbody⟩ := World.run_bind_eq_ok.mp (Prod.ext hbody rfl)
      obtain ⟨shown, w, hshown, hbody⟩ := World.run_bind_eq_ok.mp hbody
      obtain ⟨agg, z, hagg, hbody⟩ := World.run_bind_eq_ok.mp hbody
      obtain ⟨hcount, rfl⟩ := read_ok htotal
      obtain ⟨hselect, rfl⟩ := read_ok hshown
      obtain ⟨hgroups, rfl⟩ := read_ok hagg
      cases hcount
      cases hselect
      cases hgroups
      cases congrArg Prod.fst hbody
      rw [hrows]
      rfl

/-- The figures and the rows of an answer, in either branch. -/
theorem listUsers_ok (h : world.run (listUsers config lower tenant search page pageSize) s =
      (.ok data, t)) {rows : Table} (hrows : (keyedRows config tenant s).map Prod.snd = rows) :
    data.rows = ((shownRows config world lower search rows).drop
        ((page - 1) * pageSize)).take pageSize ∧
      data.total = (shownRows config world lower search rows).length ∧
      data.totalPages = totalPages (shownRows config world lower search rows).length pageSize := by
  subst hrows
  cases demo : config.demoMode with
  | true =>
    rw [run_listUsers_demo demo] at h
    cases h
    simp only [shownRows, demo, if_true]
    exact ⟨rfl, rfl, rfl⟩
  | false =>
    have hlength : ((keyedRows config tenant s).map Prod.snd).countP
          (world.mysql.matchesLike ("%" ++ search ++ "%")) =
        (realShown world.mysql search ((keyedRows config tenant s).map Prod.snd)).length := by
      rw [realShown, List.length_mergeSort, List.countP_eq_length_filter]
    rw [listUsers_real_ok demo h]
    simp only [shownRows, demo, Bool.false_eq_true, if_false]
    exact ⟨rfl, hlength, congrArg (totalPages · pageSize) hlength⟩

end Answers

section Shown

variable {config : Config} {world : World} {lower : String → String} {search : String}
  {rows : Table}

theorem matching_demo (demo : config.demoMode = true) (row : UserRow) :
    matching config world lower search row = (search == "" ||
      PyStr.contains (lower row.username) (lower search) ||
      PyStr.contains (lower row.email) (lower search)) := if_pos demo

theorem matching_real (demo : config.demoMode = false) :
    matching config world lower search = world.mysql.matchesLike ("%" ++ search ++ "%") := by
  funext row
  rw [matching, demo, if_neg Bool.false_ne_true]

theorem shownRows_demo (demo : config.demoMode = true) :
    shownRows config world lower search rows =
      rows.filter (matching config world lower search) := by
  rw [shownRows, if_pos demo, demoShown]
  by_cases hsearch : search = ""
  · rw [if_pos hsearch, eq_comm, List.filter_eq_self]
    intro row _
    simp [matching_demo demo, hsearch]
  · rw [if_neg hsearch]
    apply List.filter_congr
    intro row _
    rw [matching_demo demo, beq_false_of_ne hsearch, Bool.false_or]

theorem shownRows_perm : (shownRows config world lower search rows).Perm
    (rows.filter (matching config world lower search)) := by
  cases demo : config.demoMode with
  | true => rw [shownRows_demo demo]
  | false =>
    rw [shownRows, demo, if_neg Bool.false_ne_true, matching_real demo]
    exact List.mergeSort_perm _ _

theorem UniqueNames.shown (h : UniqueNames config world rows) :
    UniqueNames config world (shownRows config world lower search rows) := by
  have hfilter : UniqueNames config world (rows.filter (matching config world lower search)) :=
    h.sublist List.filter_sublist
  refine (List.Perm.pairwise_iff ?_ shownRows_perm).mpr hfilter
  intro row row' hne
  rw [Bool.eq_false_iff, ne_eq, sameText_iff] at hne ⊢
  exact Ne.symm hne

theorem UniqueNames.nodup (h : UniqueNames config world rows) : rows.Nodup := by
  refine h.imp fun {row row'} hne heq => ?_
  rw [Bool.eq_false_iff, ne_eq, sameText_iff, heq] at hne
  exact hne rfl

/-- Where no two names are equal, the order of the names is strict. -/
theorem shownRows_sorted (order : UsernameOrder world.mysql) (unique : UniqueNames config world rows)
    (demo : config.demoMode = false) :
    (shownRows config world lower search rows).Pairwise fun row row' =>
      world.mysql.le row.username row'.username = true ∧
        world.mysql.le row'.username row.username = false := by
  have hsorted : (shownRows config world lower search rows).Pairwise fun row row' =>
      world.mysql.le row.username row'.username = true := by
    simp only [shownRows, demo, Bool.false_eq_true, if_false]
    apply List.pairwise_mergeSort
    · intro a b c hab hbc
      exact order.trans _ _ _ hab hbc
    · intro a b
      rw [Bool.or_eq_true]
      exact order.total _ _
  refine hsorted.imp₂ (fun row row' hle hne => ⟨hle, ?_⟩) unique.shown
  rw [Bool.eq_false_iff]
  intro hge
  have heq := order.antisymm _ _ hle hge
  rw [sameText, demo, if_neg Bool.false_ne_true, heq] at hne
  cases hne

end Shown

/-- The pages that a search returns while the table does not change partition what it shows. -/
theorem listUsers_paginated (config : Config) (world : World) (lower : String → String)
    (tenant search : String) (pageSize : Nat) (rows : Table) (answer : Nat → UserList)
    (order : UsernameOrder world.mysql) (unique : UniqueNames config world rows)
    (size : 1 ≤ pageSize)
    (lists : Lists config world lower tenant search pageSize rows answer) :
    Paginated config world lower search pageSize rows answer := by
  have hanswer : ∀ page, 1 ≤ page →
      (answer page).rows = ((shownRows config world lower search rows).drop
        ((page - 1) * pageSize)).take pageSize ∧
      (answer page).total = (shownRows config world lower search rows).length ∧
      (answer page).totalPages =
        totalPages (shownRows config world lower search rows).length pageSize := by
    intro page hpage
    obtain ⟨s, t, hrows, hrun⟩ := lists page hpage
    exact listUsers_ok hrun hrows
  have hpages : allPages answer = shownRows config world lower search rows :=
    allPages_eq size (hanswer 1 le_rfl).2.2 fun page hpage => (hanswer page hpage).1
  constructor
  · rw [hpages]
    exact shownRows_perm
  · rw [hpages]
    exact unique.shown.nodup
  · intro demo
    rw [hpages, shownRows_demo demo]
  · intro demo
    rw [hpages]
    exact shownRows_sorted order unique demo
  · intro page hpage
    rw [hpages, (hanswer page hpage).2.1]
  · intro page hpage
    rw [(hanswer page hpage).2.2, (hanswer page hpage).2.1, totalPages_eq_ceil _ size]
  · intro page hpage hlast
    rw [(hanswer 1 le_rfl).2.2] at hlast
    rw [(hanswer page hpage).1, page_full hpage hlast]
  · intro page hbeyond
    rw [(hanswer 1 le_rfl).2.2] at hbeyond
    rw [(hanswer page (by omega)).1, page_beyond size hbeyond]

/-- Two users in two pages of one row. -/
def twoUsers : Table :=
  [UserRow.withDefaults "u2" "bob" "b@x.org" "user",
    UserRow.withDefaults "u1" "ann" "a@x.org" "admin"]

theorem asciiWorld_order : UsernameOrder asciiWorld.mysql where
  total a b := by
    simpa [asciiWorld] using String.le_total a b
  trans a b c hab hbc := by
    simp only [asciiWorld, decide_eq_true_eq] at hab hbc ⊢
    exact String.le_trans hab hbc
  antisymm a b hab hba := by
    simp only [asciiWorld, decide_eq_true_eq] at hab hba
    rw [String.le_antisymm hab hba, MySql.eq, beq_self_eq_true]

theorem twoUsers_paginated : ∃ answer,
    Lists { sampleConfig with demoMode := false } asciiWorld asciiLower "TenantA" "x" 1 twoUsers
        answer ∧
      Paginated { sampleConfig with demoMode := false } asciiWorld asciiLower "x" 1 twoUsers
        answer := by
  obtain ⟨-, hreal⟩ := @exists_lists "TenantA" .tenantA sampleConfig asciiWorld asciiLower rfl
    (fun _ _ => rfl) "x" twoUsers 1
  exact ⟨_, hreal, listUsers_paginated _ asciiWorld asciiLower "TenantA" "x" 1 twoUsers _
    asciiWorld_order (by unfold UniqueNames; decide) (by decide) hreal⟩

end TenantSaas
