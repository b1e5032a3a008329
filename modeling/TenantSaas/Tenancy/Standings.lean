import TenantSaas.Profile.Upserts
import TenantSaas.Tenancy.Integrity

/-!
# What users make of a tenant table

Without an administrator of the tenant no row of its table is lost, none gets another role and
none is switched on or off; the rows that come in are those of users who were let in.
-/

namespace TenantSaas

/-- What only an administrator decides of a row. -/
structure RowStanding where
  userId : String
  role : String
  enabled : Bool
  deriving DecidableEq

def UserRow.standing (row : UserRow) : RowStanding := ⟨row.userId, row.role, row.enabled⟩

def standings (rows : Table) : List RowStanding := rows.map UserRow.standing

/-- The standings of before, followed by some that are admitted. -/
def Grown (Admitted : RowStanding → Prop) (before after : Table) : Prop :=
  ∃ added, standings after = standings before ++ added ∧ ∀ standing ∈ added, Admitted standing

section Grown

variable {Admitted : RowStanding → Prop} {before between after rows : Table}

theorem Grown.of_kept (h : standings after = standings before) : Grown Admitted before after :=
  ⟨[], h.trans (List.append_nil _).symm, by rintro _ ⟨⟩⟩

theorem Grown.trans (h : Grown Admitted before between) (h' : Grown Admitted between after) :
    Grown Admitted before after := by
  obtain ⟨added, hstandings, hadded⟩ := h
  obtain ⟨added', hstandings', hadded'⟩ := h'
  refine ⟨added ++ added', by rw [hstandings', hstandings, List.append_assoc], ?_⟩
  intro standing hstanding
  rcases List.mem_append.mp hstanding with hmem | hmem
  · exact hadded standing hmem
  · exact hadded' standing hmem

theorem standings_updateWhere {mysql : MySql} {key : String} {f : UserRow → UserRow}
    (hf : ∀ row, (f row).standing = row.standing) :
    standings (mysql.updateWhere rows key f).2 = standings rows := by
  unfold standings MySql.updateWhere
  rw [List.map_map]
  refine List.map_congr_left fun row _ => ?_
  rw [Function.comp_apply]
  split
  · exact hf row
  · rfl

theorem standing_setAll (row : UserRow) (fields : List (String × String)) :
    (row.setAll fields).standing = row.standing := by
  have hkeys : ∀ field ∈ fields, field.1 ∈ fields.map Prod.fst :=
    fun field hfield => List.mem_map_of_mem hfield
  have hkeeps := row.keeps_setAll hkeys
  unfold UserRow.standing
  rw [hkeeps.userId, hkeeps.role, hkeeps.enabled]

/-- What a user who is no administrator writes. -/
theorem grown_of_apply {mysql : MySql} {identity : Identity} {statement : RowWrite} {count : Nat}
    {rows' : Table} (hallowed : statement.AllowedFor identity) (hadmin : identity.role ≠ "admin")
    (happly : mysql.apply rows statement = .ok (count, rows')) :
    Grown (fun standing => Users.resolveUserId identity = .ok standing.userId ∧
      standing.role = identity.role) rows rows' := by
  cases statement with
  | insert row =>
    obtain ⟨-, rfl⟩ := apply_insert happly
    rcases hallowed with ⟨hrole, -⟩ | hown
    · exact absurd hrole hadmin
    refine ⟨[row.standing], by simp [standings], fun standing hstanding => ?_⟩
    obtain rfl := List.mem_singleton.mp hstanding
    exact hown
  | updateProfile key fields =>
    rw [apply_updateProfile happly]
    exact .of_kept (standings_updateWhere fun row => standing_setAll row fields)
  | updatePasswordChanged key today =>
    cases happly
    exact .of_kept (standings_updateWhere fun _ => rfl)
  | updateEnabled key enabled => exact absurd hallowed hadmin
  | delete key => exact absurd hallowed hadmin

theorem evolves_grown {mysql : MySql} {table : TenantTable} {identity : Identity}
    (hadmin : tableForTenant identity.tenant = .ok table → identity.role ≠ "admin")
    (hjoins : ∀ standing : RowStanding, tableForTenant identity.tenant = .ok table →
      Users.resolveUserId identity = .ok standing.userId → standing.role = identity.role →
      Admitted standing) :
    Evolves mysql identity fun before after => Grown Admitted (before table) (after table) where
  refl _ := .of_kept rfl
  trans _ _ _ := Grown.trans
  write tables {table' statement count rows} htable hallowed happly := by
    by_cases htables : table = table'
    · subst htables
      rw [Rds.setTable_self]
      obtain ⟨added, hstandings, hadded⟩ := grown_of_apply hallowed (hadmin htable) happly
      refine ⟨added, hstandings, fun standing hstanding => ?_⟩
      obtain ⟨hown, hrole⟩ := hadded standing hstanding
      exact hjoins standing htable hown hrole
    · rw [Rds.setTable_other _ htables]
      exact .of_kept rfl

end Grown

/-- In a run of requests in which no administrator of a tenant is let in, the rows of its table
stay, in their order, each with its role and enabled or disabled as it was.  The rows that come
in after them have the id and the role of someone who was let in. -/
theorem standings_without_admin {config : Config} {mysql : MySql} {s t : AppState}
    {trace : Steps.Trace AppState Served} {table : TenantTable}
    (run : Steps.Run (ServedBy config mysql) s trace t)
    (noAdmin : ∀ x ∈ trace, ∀ identity, x.2.admitted config x.1 = some identity →
      tableForTenant identity.tenant = .ok table → identity.role ≠ "admin") :
    ∃ added, standings (t.rds.committed table) = standings (s.rds.committed table) ++ added ∧
      ∀ standing ∈ added, ∃ x ∈ trace, ∃ identity,
        x.2.admitted config x.1 = some identity ∧ tableForTenant identity.tenant = .ok table ∧
          Users.resolveUserId identity = .ok standing.userId ∧
          standing.role = identity.role := by
  let Admitted (standing : RowStanding) : Prop := ∃ x ∈ trace, ∃ identity,
    x.2.admitted config x.1 = some identity ∧ tableForTenant identity.tenant = .ok table ∧
      Users.resolveUserId identity = .ok standing.userId ∧ standing.role = identity.role
  let R (s t : AppState) : Prop :=
    Grown Admitted (s.rds.committed table) (t.rds.committed table)
  let P (s : AppState) (served : Served) : Prop := (s, served) ∈ trace
  refine run.relates (R := R) (P := P) (fun _ => .of_kept rfl) (fun _ _ _ => Grown.trans)
    (fun s served t hmem hserved => ?_) fun x hx => hx
  obtain ⟨rfl, rfl⟩ := hserved
  refine Served.finish_evolves (R := fun before after => Grown Admitted (before table)
    (after table)) (fun _ => .of_kept rfl) fun identity hadmitted => evolves_grown ?_ ?_
  · exact noAdmin (s, served) hmem identity hadmitted
  · intro standing htable hown hrole
    exact ⟨(s, served), hmem, identity, hadmitted, htable, hown, hrole⟩

/-- A user of TenantA who has no row yet. -/
def dan : Identity where
  tenant := "TenantA"
  role := "user"
  group := "TenantA_user"
  username := some "dan"
  email := some "dan@a.example"
  sub := some "sub-4"
  userId := none
  profileComplete := false
  firstLogin := some true
  passwordResetDone := false

/-- The user saves a first profile. -/
def savesProfile : Served where
  world := quietWorld
  lower := id
  session := { Session.cleared with identity := some dan }
  request :=
    { method := "POST"
      path := "/users/details"
      headers := fun _ => none
      cookies := fun _ => none
      args := fun _ => none
      form := fun field =>
        if field = "name" then some "Dan"
        else if field = "email" then some "dan@a.example"
        else if field = "department" then some "Sales"
        else none }
  route := .userDetailsUpdate

theorem dan_joins : ∃ added,
    standings ((savesProfile.finish sampleConfig withCarl).rds.committed .tenantA) =
      standings (withCarl.rds.committed .tenantA) ++ added ∧
      ∀ standing ∈ added, ∃ x ∈ [(withCarl, savesProfile)], ∃ identity,
        x.2.admitted sampleConfig x.1 = some identity ∧
          tableForTenant identity.tenant = .ok .tenantA ∧
          Users.resolveUserId identity = .ok standing.userId ∧
          standing.role = identity.role := by
  refine standings_without_admin (Steps.Run.nil.snoc ⟨rfl, rfl⟩) fun x hx identity hadmitted _ => ?_
  obtain rfl := List.mem_singleton.mp hx
  obtain rfl : dan = identity := Option.some.inj hadmitted
  decide

end TenantSaas
