import TenantSaas.Misc.Like
import TenantSaas.Profile.RowPuts
import Mathlib.Algebra.BigOperators.Group.List.Lemmas

/-!
# The lists of users

`list_users` filters and counts the rows of `_demo_db`, or asks the table of the tenant with
`LIKE` and `GROUP BY`.
-/

namespace TenantSaas

/-! ## Pages and counts -/

/-- The pages up to the `n`th, one after the other. -/
theorem flatMap_pages {α : Type} (rows : List α) (size n : Nat) :
    ((List.range n).flatMap fun i => (rows.drop (i * size)).take size) =
      rows.take (n * size) := by
  induction n with
  | zero => rw [Nat.zero_mul, List.take_zero, List.range_zero, List.flatMap_nil]
  | succ n ih =>
    rw [List.range_succ, List.flatMap_append, ih, List.flatMap_singleton, Nat.succ_mul,
      List.take_add]

theorem le_totalPages_mul {total size : Nat} (h : 1 ≤ size) :
    total ≤ totalPages total size * size := by
  have hdiv := Nat.lt_div_mul_add (a := total + size - 1) h
  have hmax : (total + size - 1) / size ≤ totalPages total size := Nat.le_max_right _ _
  have hmul := Nat.mul_le_mul_right size hmax
  omega

/-- The sums over the groups of `GROUP BY role, enabled` count rows. -/
theorem sumCounts_countRoles (p : String × Bool → Bool) (rows : Table) :
    sumCounts (MySql.countRoles rows) (fun row => p (row.role, row.enabled)) =
      rows.countP fun row => p (row.role, row.enabled) := by
  have hcount := List.sum_map_count_dedup_filter_eq_countP p
    (rows.map fun row => (row.role, row.enabled))
  rw [List.countP_map] at hcount
  show _ = List.countP (p ∘ fun row : UserRow => (row.role, row.enabled)) rows
  rw [← hcount, sumCounts, MySql.countRoles, List.filter_map, List.map_map]
  apply congrArg List.sum
  apply List.map_congr_left
  intro key _
  unfold List.count
  rw [List.countP_map]
  apply List.countP_congr
  intro row _
  simp

/-! ## What a list says -/

/-- The username or the email contains the search, whatever the case of the letters. -/
def shows (search : String) (row : UserRow) : Bool :=
  PyStr.occursIn (search.toList.map Char.toLower) (row.username.toList.map Char.toLower) ||
    PyStr.occursIn (search.toList.map Char.toLower) (row.email.toList.map Char.toLower)

/-- A table of users whose names and addresses are ASCII. -/
structure AsciiTable (mysql : MySql) (rows : Table) : Prop where
  ascii : ∀ row ∈ rows, PyStr.isAscii row.username = true ∧ PyStr.isAscii row.email = true
  unique : mysql.uniqueUsernames rows = true
  roles : ∀ row ∈ rows, row.role = "admin" ∨ row.role = "user"

/-- What MySQL's `LIKE` and `str.lower` do with ASCII texts. -/
structure AsciiRules (mysql : MySql) (lower : String → String) : Prop where
  like : ∀ text pattern, PyStr.isAscii text = true → PyStr.isAscii pattern = true →
    mysql.like text pattern = Like.isLike text.toList pattern.toList
  lower : ∀ text, PyStr.isAscii text = true → (lower text).toList = text.toList.map Char.toLower

/-- The rows on all the pages. -/
def allPages (answer : Nat → UserList) : List UserRow :=
  (List.range (answer 1).totalPages).flatMap fun i => (answer (i + 1)).rows

/-- The figures beside the rows. -/
def UserList.figures (data : UserList) : Nat × Nat × Nat × Nat × Nat × Nat :=
  (data.total, data.totalPages, data.admins, data.users, data.active, data.disabled)

/-- `answer` is what `list_users` returns page by page while the tenant has these rows. -/
def Lists (config : Config) (world : World) (lower : String → String) (tenant search : String)
    (pageSize : Nat) (rows : Table) (answer : Nat → UserList) : Prop :=
  ∀ page, 1 ≤ page → ∃ s t, (keyedRows config tenant s).map Prod.snd = rows ∧
    world.run (listUsers config lower tenant search page pageSize) s = (.ok (answer page), t)

/-- The two branches report the same figures, which add up to the table, and their pages hold
the rows the search shows. -/
structure SameAnswer (search : String) (rows : Table) (demo real : Nat → UserList) : Prop where
  figures : ∀ page, 1 ≤ page → (demo page).figures = (real page).figures
  roles : ∀ page, 1 ≤ page → (real page).admins + (real page).users = rows.length
  states : ∀ page, 1 ≤ page → (real page).active + (real page).disabled = rows.length
  demoRows : (allPages demo).Perm (rows.filter (shows search))
  realRows : (allPages real).Perm (rows.filter (shows search))

/-- The branches give the same answer on every table of ASCII users, for every page size. -/
def BranchesAgree (config : Config) (world : World) (lower : String → String)
    (tenant search : String) : Prop :=
  ∀ rows pageSize demo real, AsciiTable world.mysql rows → 1 ≤ pageSize →
    Lists { config with demoMode := true } world lower tenant search pageSize rows demo →
    Lists { config with demoMode := false } world lower tenant search pageSize rows real →
    SameAnswer search rows demo real

/-! ## The two branches -/

/-- The rows `_demo_db` is searched for (`rds_service.py:150-153`). -/
def demoShown (lower : String → String) (search : String) (rows : Table) : List UserRow :=
  if search = "" then rows else rows.filter fun row =>
    PyStr.contains (lower row.username) (lower search) ||
      PyStr.contains (lower row.email) (lower search)

/-- The answer of `_demo_db` (`rds_service.py:149-167`). -/
def demoAnswer (lower : String → String) (search : String) (rows : Table) (page pageSize : Nat) :
    UserList where
  rows := ((demoShown lower search rows).drop ((page - 1) * pageSize)).take pageSize
  total := (demoShown lower search rows).length
  page := page
  pageSize := pageSize
  totalPages := totalPages (demoShown lower search rows).length pageSize
  admins := rows.countP fun row => row.role == "admin"
  users := rows.countP fun row => row.role == "user"
  active := rows.countP fun row => row.enabled
  disabled := rows.countP fun row => !row.enabled

/-- The rows that match, in the order of the query. -/
def realShown (mysql : MySql) (search : String) (rows : Table) : List UserRow :=
  (rows.filter (mysql.matchesLike ("%" ++ search ++ "%"))).mergeSort
    fun r r' => mysql.le r.username r'.username

/-- The answer of the three queries (`rds_service.py:175-195`). -/
def realAnswer (mysql : MySql) (search : String) (rows : Table) (page pageSize : Nat) :
    UserList where
  rows := ((realShown mysql search rows).drop ((page - 1) * pageSize)).take pageSize
  total := rows.countP (mysql.matchesLike ("%" ++ search ++ "%"))
  page := page
  pageSize := pageSize
  totalPages := totalPages (rows.countP (mysql.matchesLike ("%" ++ search ++ "%"))) pageSize
  admins := sumCounts (MySql.countRoles rows) fun row => row.role == "admin"
  users := sumCounts (MySql.countRoles rows) fun row => row.role != "admin"
  active := sumCounts (MySql.countRoles rows) fun row => row.enabled
  disabled := sumCounts (MySql.countRoles rows) fun row => !row.enabled

section Branches

variable {config : Config} {world : World} {lower : String → String} {tenant search : String}
  {table : TenantTable} {page pageSize : Nat} {rows : Table} {s : AppState}

theorem run_listUsers_demo (demo : config.demoMode = true) :
    world.run (listUsers config lower tenant search page pageSize) s =
      (.ok (demoAnswer lower search ((keyedRows config tenant s).map Prod.snd) page pageSize),
        { s with tick := s.tick + 1 }) := by
  unfold listUsers
  rw [if_pos demo, World.run_bind_ok (run_demoRows tenant s), keyedRows_demo demo]
  rfl

/-- Nothing fails. -/
theorem run_listUsers_real (demo : config.demoMode = false)
    (htable : tableForTenant tenant = .ok table) (hquiet : ∀ tick op, world.fault tick op = none) :
    (world.run (listUsers config lower tenant search page pageSize) s).1 =
      .ok (realAnswer world.mysql search ((keyedRows config tenant s).map Prod.snd) page
        pageSize) := by
  have hnone : ∀ (s : AppState) (op : AppOp), world.failure s op = none := by
    intro s op
    simp [World.failure, hquiet]
  have hrows : (keyedRows config tenant s).map Prod.snd = s.rds.committed table := by
    rw [keyedRows_real demo htable, List.map_map]
    exact List.map_id _
  unfold listUsers
  rw [if_neg (by simp [demo]), htable]
  change (world.run (withConnection _) s).1 = _
  rw [run_withConnection (hnone s _), hrows]
  rw [World.run_bind_ok (by rw [World.run_perform, World.exec_of_answer (hnone _ _)]; rfl),
    World.run_bind_ok (by rw [World.run_perform, World.exec_of_answer (hnone _ _)]; rfl),
    World.run_bind_ok (by rw [World.run_perform, World.exec_of_answer (hnone _ _)]; rfl)]
  rfl

end Branches

/-! ## What each branch says -/

/-- The figures of a list that shows the rows a condition selects. -/
def figuresOf (rows : Table) (shown : UserRow → Bool) (pageSize : Nat) :
    Nat × Nat × Nat × Nat × Nat × Nat :=
  (rows.countP shown, totalPages (rows.countP shown) pageSize,
    rows.countP fun row => row.role == "admin", rows.countP fun row => row.role == "user",
    rows.countP fun row => row.enabled, rows.countP fun row => !row.enabled)

section Says

variable {mysql : MySql} {lower : String → String} {search : String} {rows : Table}
  {page pageSize : Nat}

theorem shows_empty (row : UserRow) : shows "" row = true := by
  have hempty : PyStr.occursIn [] (row.username.toList.map Char.toLower) = true :=
    PyStr.occursIn_iff_infix.mpr List.nil_infix
  unfold shows
  rw [show "".toList.map Char.toLower = [] from rfl, hempty, Bool.true_or]

/-- `_demo_db` shows what the search asks for. -/
theorem demo_shown (rules : AsciiRules mysql lower) (hrows : AsciiTable mysql rows)
    (hsearch : PyStr.isAscii search = true) :
    demoShown lower search rows = rows.filter (shows search) := by
  unfold demoShown
  by_cases hempty : search = ""
  · rw [if_pos hempty, hempty, List.filter_eq_self.mpr fun row _ => shows_empty row]
  · rw [if_neg hempty]
    apply List.filter_congr
    intro row hrow
    obtain ⟨husername, hemail⟩ := hrows.ascii row hrow
    rw [PyStr.contains, PyStr.contains, rules.lower _ hsearch, rules.lower _ husername,
      rules.lower _ hemail]
    rfl

theorem isAscii_likeTerm (h : PyStr.isAscii search = true) :
    PyStr.isAscii ("%" ++ search ++ "%") = true := by
  unfold PyStr.isAscii at h ⊢
  rw [String.toList_append, String.toList_append, List.all_append, List.all_append, h]
  rfl

theorem toList_likeTerm : ("%" ++ search ++ "%").toList = '%' :: (search.toList ++ ['%']) := by
  rw [String.toList_append, String.toList_append]
  rfl

/-- Without pattern characters `LIKE` shows what the search asks for. -/
theorem matchesLike_plain (rules : AsciiRules mysql lower) (hrows : AsciiTable mysql rows)
    (hsearch : PyStr.isAscii search = true) (hplain : search.toList.any Like.isMeta = false)
    {row : UserRow} (hrow : row ∈ rows) :
    mysql.matchesLike ("%" ++ search ++ "%") row = shows search row := by
  obtain ⟨husername, hemail⟩ := hrows.ascii row hrow
  have hlike : ∀ text, PyStr.isAscii text = true →
      mysql.like text ("%" ++ search ++ "%") =
        PyStr.occursIn (search.toList.map Char.toLower) (text.toList.map Char.toLower) := by
    intro text htext
    rw [rules.like _ _ htext (isAscii_likeTerm hsearch), toList_likeTerm, Bool.eq_iff_iff,
      Like.isLike_search hplain, PyStr.occursIn_iff_infix]
  rw [MySql.matchesLike, hlike _ husername, hlike _ hemail]
  rfl

/-- The pages hold what is cut into pages. -/
theorem allPages_eq {answer : Nat → UserList} {shown : List UserRow} (hsize : 1 ≤ pageSize)
    (hpages : (answer 1).totalPages = totalPages shown.length pageSize)
    (hshown : ∀ page, 1 ≤ page →
      (answer page).rows = (shown.drop ((page - 1) * pageSize)).take pageSize) :
    allPages answer = shown := by
  have hcut : ∀ i, (answer (i + 1)).rows = (shown.drop (i * pageSize)).take pageSize := by
    intro i
    rw [hshown (i + 1) (Nat.le_add_left 1 i), Nat.add_sub_cancel]
  unfold allPages
  rw [hpages, funext hcut, flatMap_pages, List.take_of_length_le (le_totalPages_mul hsize)]

theorem demoAnswer_figures (rules : AsciiRules mysql lower) (hrows : AsciiTable mysql rows)
    (hsearch : PyStr.isAscii search = true) :
    (demoAnswer lower search rows page pageSize).figures =
      figuresOf rows (shows search) pageSize := by
  unfold UserList.figures demoAnswer figuresOf
  rw [demo_shown rules hrows hsearch, ← List.countP_eq_length_filter]

/-- A role that is not `admin` is `user`. -/
theorem countP_not_admin (hrows : AsciiTable mysql rows) :
    (rows.countP fun row => row.role != "admin") = rows.countP fun row => row.role == "user" := by
  apply List.countP_congr
  intro row hrow
  rcases hrows.roles row hrow with hrole | hrole
  · simp [hrole]
  · simp [hrole]

theorem realAnswer_figures (hrows : AsciiTable mysql rows)
    (hlike : ∀ row ∈ rows, mysql.matchesLike ("%" ++ search ++ "%") row = shows search row) :
    (realAnswer mysql search rows page pageSize).figures =
      figuresOf rows (shows search) pageSize := by
  have htotal : rows.countP (mysql.matchesLike ("%" ++ search ++ "%")) =
      rows.countP (shows search) :=
    List.countP_congr fun row hrow => by rw [hlike row hrow]
  unfold UserList.figures realAnswer figuresOf
  rw [htotal, sumCounts_countRoles (fun key => key.1 == "admin"),
    sumCounts_countRoles (fun key => key.1 != "admin"), sumCounts_countRoles (fun key => key.2),
    sumCounts_countRoles (fun key => !key.2), countP_not_admin hrows]

theorem figures_totals {data : UserList} {shown : UserRow → Bool} (hrows : AsciiTable mysql rows)
    (h : data.figures = figuresOf rows shown pageSize) :
    data.admins + data.users = rows.length ∧ data.active + data.disabled = rows.length := by
  obtain ⟨-, -, hadmins, husers, hactive, hdisabled⟩ := by
    simpa only [UserList.figures, figuresOf, Prod.mk.injEq] using h
  have hroles := List.length_eq_countP_add_countP (fun row : UserRow => row.role == "admin")
    (l := rows)
  have hstates := List.length_eq_countP_add_countP (fun row : UserRow => row.enabled) (l := rows)
  rw [hadmins, husers, hactive, hdisabled, ← countP_not_admin hrows]
  constructor
  · rw [hroles]
    apply congrArg
    apply List.countP_congr
    intro row _
    simp
  · rw [hstates]
    apply congrArg
    apply List.countP_congr
    intro row _
    simp

/-- A text that `LIKE` finds and that does not contain the search. -/
def strangeRow (search : String) : UserRow :=
  UserRow.withDefaults "u1" (String.ofList (Like.found search.toList)) "" "user"

theorem strangeTable (hsearch : PyStr.isAscii search = true) :
    AsciiTable mysql [strangeRow search] := by
  refine ⟨?_, rfl, ?_⟩
  · intro row hrow
    obtain rfl := List.mem_singleton.mp hrow
    refine ⟨?_, rfl⟩
    unfold PyStr.isAscii at hsearch ⊢
    rw [List.all_eq_true] at hsearch ⊢
    intro c hc
    rw [strangeRow, UserRow.withDefaults, String.toList_ofList] at hc
    rcases Like.mem_found hc with rfl | rfl | hin
    · rfl
    · rfl
    · exact hsearch c hin
  · intro row hrow
    obtain rfl := List.mem_singleton.mp hrow
    exact .inr rfl

theorem shows_strangeRow (h : search.toList.any Like.isMeta = true) :
    shows search (strangeRow search) = false := by
  have husername : PyStr.occursIn (search.toList.map Char.toLower)
      ((Like.found search.toList).map Char.toLower) = false := by
    rw [Bool.eq_false_iff, ne_eq, PyStr.occursIn_iff_infix]
    exact Like.not_infix_found h
  have hemail : PyStr.occursIn (search.toList.map Char.toLower) [] = false := by
    cases hs : search.toList with
    | nil =>
      rw [hs] at h
      cases h
    | cons c s => rfl
  unfold shows strangeRow UserRow.withDefaults
  rw [String.toList_ofList, husername]
  exact hemail

theorem matchesLike_strangeRow (rules : AsciiRules mysql lower)
    (hsearch : PyStr.isAscii search = true) :
    mysql.matchesLike ("%" ++ search ++ "%") (strangeRow search) = true := by
  have hrow := (@strangeTable mysql search hsearch).ascii (strangeRow search)
    (List.mem_singleton_self _)
  have hfound := Like.isLike_found search.toList
  rw [MySql.matchesLike, rules.like _ _ hrow.1 (isAscii_likeTerm hsearch), toList_likeTerm]
  unfold strangeRow UserRow.withDefaults
  rw [String.toList_ofList, hfound, Bool.true_or]

end Says

section SameAnswer

variable {config : Config} {world : World} {lower : String → String} {tenant search : String}
  {table : TenantTable}

theorem lists_demo {rows : Table} {pageSize : Nat} {demo : Nat → UserList}
    (h : Lists { config with demoMode := true } world lower tenant search pageSize rows demo) :
    ∀ page, 1 ≤ page → demo page = demoAnswer lower search rows page pageSize := by
  intro page hpage
  obtain ⟨s, t, hrows, hrun⟩ := h page hpage
  rw [run_listUsers_demo rfl, hrows] at hrun
  exact (Except.ok.inj (Prod.mk.inj hrun).1).symm

theorem lists_real {rows : Table} {pageSize : Nat} {real : Nat → UserList}
    (htable : tableForTenant tenant = .ok table) (hquiet : ∀ tick op, world.fault tick op = none)
    (h : Lists { config with demoMode := false } world lower tenant search pageSize rows real) :
    ∀ page, 1 ≤ page → real page = realAnswer world.mysql search rows page pageSize := by
  intro page hpage
  obtain ⟨s, t, hrows, hrun⟩ := h page hpage
  have hanswer := congrArg Prod.fst hrun
  rw [run_listUsers_real rfl htable hquiet, hrows] at hanswer
  exact (Except.ok.inj hanswer).symm

theorem map_snd_keyed (rows : Table) :
    (rows.map fun row => (row.userId, row)).map Prod.snd = rows := by
  rw [List.map_map]
  exact List.map_id rows

/-- Every table can be listed in both branches. -/
theorem exists_lists (config : Config) (world : World) (lower : String → String)
    (htable : tableForTenant tenant = .ok table) (hquiet : ∀ tick op, world.fault tick op = none)
    (search : String) (rows : Table) (pageSize : Nat) :
    Lists { config with demoMode := true } world lower tenant search pageSize rows
        (fun page => demoAnswer lower search rows page pageSize) ∧
      Lists { config with demoMode := false } world lower tenant search pageSize rows
        fun page => realAnswer world.mysql search rows page pageSize := by
  constructor
  · intro page _
    let s : AppState :=
      { emptyState with demoDb := [(tenant, rows.map fun row => (row.userId, row))] }
    have hrows : (keyedRows { config with demoMode := true } tenant s).map Prod.snd = rows := by
      rw [keyedRows_demo rfl]
      show ((List.lookup tenant [(tenant, _)]).getD []).map Prod.snd = rows
      rw [List.lookup_cons_self, Option.getD_some, map_snd_keyed]
    refine ⟨s, { s with tick := s.tick + 1 }, hrows, ?_⟩
    rw [run_listUsers_demo rfl, hrows]
  · intro page _
    let s : AppState := { emptyState with rds := ⟨fun _ => rows, fun _ => rows⟩ }
    have hrows : (keyedRows { config with demoMode := false } tenant s).map Prod.snd = rows := by
      rw [keyedRows_real rfl htable]
      exact map_snd_keyed rows
    refine ⟨s, _, hrows, Prod.ext ?_ rfl⟩
    rw [run_listUsers_real rfl htable hquiet, hrows]

/-- The two branches of `list_users` give the same answer on every table exactly when the search
has none of `%`, `_` and the backslash. -/
theorem sameAnswer_iff_plain (htable : tableForTenant tenant = .ok table)
    (rules : AsciiRules world.mysql lower) (hquiet : ∀ tick op, world.fault tick op = none)
    (hsearch : PyStr.isAscii search = true) :
    BranchesAgree config world lower tenant search ↔ search.toList.any Like.isMeta = false := by
  constructor
  · intro h
    by_contra hmeta
    rw [Bool.not_eq_false] at hmeta
    obtain ⟨hdemo, hreal⟩ := exists_lists config world lower htable hquiet search
      [strangeRow search] 1
    have hsame := h _ _ _ _ (strangeTable hsearch) (Nat.le_refl 1) hdemo hreal
    -- `LIKE` counts the row, `in` does not
    have htotal := (Prod.mk.inj (hsame.figures 1 (Nat.le_refl 1))).1
    simp only [demoAnswer, realAnswer] at htotal
    rw [demo_shown rules (strangeTable hsearch) hsearch, List.filter_singleton,
      shows_strangeRow hmeta, List.countP_singleton, matchesLike_strangeRow rules hsearch] at htotal
    cases htotal
  · intro hplain rows pageSize demo real hrows hsize hdemo hreal
    have hlike : ∀ row ∈ rows,
        world.mysql.matchesLike ("%" ++ search ++ "%") row = shows search row :=
      fun row hrow => matchesLike_plain rules hrows hsearch hplain hrow
    have hfilter : rows.filter (world.mysql.matchesLike ("%" ++ search ++ "%")) =
        rows.filter (shows search) := List.filter_congr hlike
    have hdemo := lists_demo hdemo
    have hreal := lists_real htable hquiet hreal
    have hfigures : ∀ page, 1 ≤ page →
        (real page).figures = figuresOf rows (shows search) pageSize := by
      intro page hpage
      rw [hreal page hpage, realAnswer_figures hrows hlike]
    refine ⟨fun page hpage => ?_, fun page hpage => (figures_totals hrows (hfigures page hpage)).1,
      fun page hpage => (figures_totals hrows (hfigures page hpage)).2, ?_, ?_⟩
    · rw [hfigures page hpage, hdemo page hpage, demoAnswer_figures rules hrows hsearch]
    · rw [allPages_eq hsize (by rw [hdemo 1 (Nat.le_refl 1)]; rfl)
        (fun page hpage => by rw [hdemo page hpage]; rfl), demo_shown rules hrows hsearch]
    · have hlength : (realShown world.mysql search rows).length =
          rows.countP (world.mysql.matchesLike ("%" ++ search ++ "%")) := by
        rw [realShown, List.length_mergeSort, List.countP_eq_length_filter]
      rw [allPages_eq hsize (by rw [hreal 1 (Nat.le_refl 1), hlength]; rfl)
        (fun page hpage => by rw [hreal page hpage]; rfl), ← hfilter]
      exact List.mergeSort_perm _ _

/-- A world whose MySQL compares ASCII texts. -/
def asciiWorld : World where
  __ := quietWorld
  mysql :=
    ⟨fun text => String.ofList (text.toList.map Char.toLower),
      fun text pattern => Like.isLike text.toList pattern.toList, fun a b => decide (a ≤ b)⟩

def asciiLower (text : String) : String := String.ofList (text.toList.map Char.toLower)

theorem asciiWorld_rules : AsciiRules asciiWorld.mysql asciiLower where
  like _ _ _ _ := rfl
  lower _ _ := String.toList_ofList

theorem asciiTable_user {userId username email : String}
    (husername : PyStr.isAscii username = true) (hemail : PyStr.isAscii email = true) :
    AsciiTable asciiWorld.mysql [UserRow.withDefaults userId username email "user"] := by
  refine ⟨fun row hrow => ?_, rfl, fun row hrow => ?_⟩
  · obtain rfl := List.mem_singleton.mp hrow
    exact ⟨husername, hemail⟩
  · obtain rfl := List.mem_singleton.mp hrow
    exact .inr rfl

theorem sameAnswer_iff_plain_ann :
    ∃ demo real,
      Lists { sampleConfig with demoMode := true } asciiWorld asciiLower "TenantA" "Ann" 8
        [UserRow.withDefaults "u1" "annette" "a@x.org" "user"] demo ∧
      Lists { sampleConfig with demoMode := false } asciiWorld asciiLower "TenantA" "Ann" 8
        [UserRow.withDefaults "u1" "annette" "a@x.org" "user"] real ∧
      SameAnswer "Ann" [UserRow.withDefaults "u1" "annette" "a@x.org" "user"] demo real := by
  obtain ⟨hdemo, hreal⟩ := @exists_lists "TenantA" .tenantA sampleConfig asciiWorld asciiLower rfl
    (fun _ _ => rfl) "Ann" [UserRow.withDefaults "u1" "annette" "a@x.org" "user"] 8
  have hagree := (@sameAnswer_iff_plain sampleConfig asciiWorld asciiLower "TenantA" "Ann"
    .tenantA rfl asciiWorld_rules (fun _ _ => rfl) (by decide)).mpr (by decide)
  exact ⟨_, _, hdemo, hreal,
    hagree _ _ _ _ (asciiTable_user (by decide) (by decide)) (by decide) hdemo hreal⟩

/-- The search `a_b` finds the user `axb` in MySQL only. -/
theorem underscore_matches_all :
    ∃ rows demo real, AsciiTable asciiWorld.mysql rows ∧
      Lists { sampleConfig with demoMode := true } asciiWorld asciiLower "TenantA" "a_b" 8 rows
        demo ∧
      Lists { sampleConfig with demoMode := false } asciiWorld asciiLower "TenantA" "a_b" 8 rows
        real ∧
      (demo 1).total = 0 ∧ (real 1).total = 1 ∧ ¬ SameAnswer "a_b" rows demo real := by
  obtain ⟨hdemo, hreal⟩ := @exists_lists "TenantA" .tenantA sampleConfig asciiWorld asciiLower rfl
    (fun _ _ => rfl) "a_b" [UserRow.withDefaults "u1" "axb" "x@y.org" "user"] 8
  refine ⟨_, _, _, asciiTable_user (by decide) (by decide), hdemo, hreal, rfl, rfl, fun h => ?_⟩
  have htotal := (Prod.mk.inj (h.figures 1 (Nat.le_refl 1))).1
  cases htotal

end SameAnswer

end TenantSaas
