import TenantSaas.Profile.Upserts

/-!
# The first row of a user

What the table makes of the `INSERT` and the `UPDATE` of `upsert_user_profile` when it has no
row of the user, or that one beside the others.
-/

namespace TenantSaas

/-! ## The user's row -/

namespace UserRow

/-- A column of a saved row has the value that was saved, or the one it had. -/
theorem column_setAll_or (row base : UserRow) (fields : List (String × String)) {name : String}
    (hname : name ∈ editableProfileFields) :
    (row.setAll fields).column name = (base.setAll fields).column name ∨
      (row.setAll fields).column name = row.column name := by
  rw [column_setAll row hname, column_setAll base hname]
  cases assigned name fields with
  | some value => exact .inl rfl
  | none => exact .inr rfl

/-- The values that fit in one row fit in another. -/
theorem fits_setAll {row base : UserRow} {fields : List (String × String)}
    (hrow : row.fits = true) (hbase : (base.setAll fields).fits = true) :
    (row.setAll fields).fits = true := by
  have hkeys : ∀ field ∈ fields, field.1 ∈ fields.map Prod.fst := fun _ h => List.mem_map_of_mem h
  have hrole := (row.keeps_setAll hkeys).role
  have hcolumn := fun name => @column_setAll_or row base fields name
  have husername := hcolumn "username" (by decide)
  have hemail := hcolumn "email" (by decide)
  have hphone := hcolumn "phone" (by decide)
  have hdepartment := hcolumn "department" (by decide)
  have himage := hcolumn "profile_image" (by decide)
  simp only [column, String.reduceEq, if_true, if_false, Option.some.injEq]
    at husername hemail hphone hdepartment himage
  simp only [fits, Bool.and_eq_true, Bool.or_eq_true, decide_eq_true_eq] at hrow hbase ⊢
  rw [setAll_userId, hrole]
  refine ⟨⟨⟨⟨⟨⟨hrow.1.1.1.1.1.1, ?_⟩, ?_⟩, hrow.1.1.1.2⟩, ?_⟩, ?_⟩, ?_⟩
  · rcases husername with h | h
    · exact h ▸ hbase.1.1.1.1.1.2
    · exact h ▸ hrow.1.1.1.1.1.2
  · rcases hemail with h | h
    · exact h ▸ hbase.1.1.1.1.2
    · exact h ▸ hrow.1.1.1.1.2
  · rcases hphone with h | h
    · exact h ▸ hbase.1.1.2
    · exact h ▸ hrow.1.1.2
  · rcases hdepartment with h | h
    · exact h ▸ hbase.1.2
    · exact h ▸ hrow.1.2
  · rcases himage with h | h
    · exact h ▸ hbase.2
    · exact h ▸ hrow.2

end UserRow

/-- The row a save inserts. -/
def firstRow (userId : String) (fields : List (String × String)) (role : String) : UserRow :=
  (UserRow.withDefaults userId userId "" role).setAll (editable fields)

/-- A row of the user that the table takes beside the others. -/
structure Belongs (mysql : MySql) (rows : Table) (userId : String) (row : UserRow) : Prop where
  userId : row.userId = userId
  fits : row.fits = true
  username : ∀ r ∈ rows, mysql.eq r.username row.username = false

/-- A stored table without a row of the user. -/
structure NoRow (mysql : MySql) (rows : Table) (userId : String) : Prop where
  absent : ∀ r ∈ rows, mysql.eq r.userId userId = false
  fits : rows.all UserRow.fits = true
  unique : mysql.uniqueUsernames rows = true

section Row

variable {mysql : MySql} {rows : Table} {userId role : String} {row : UserRow}
  {fields : List (String × String)}

theorem Belongs.setAll (hrow : Belongs mysql rows userId row)
    (hfirst : Belongs mysql rows userId (firstRow userId fields role)) :
    Belongs mysql rows userId (row.setAll (editable fields)) where
  userId := (setAll_userId row _).trans hrow.userId
  fits := UserRow.fits_setAll hrow.fits hfirst.fits
  username r hr := by
    have hcolumn := row.column_setAll_or (UserRow.withDefaults userId userId "" role)
      (editable fields) (show "username" ∈ editableProfileFields by decide)
    simp only [UserRow.column, if_true, Option.some.injEq] at hcolumn
    rcases hcolumn with h | h
    · rw [h]
      exact hfirst.username r hr
    · rw [h]
      exact hrow.username r hr

theorem find?_absent (hrows : NoRow mysql rows userId) :
    (rows.find? fun row => mysql.eq row.userId userId) = none := by
  rw [List.find?_eq_none]
  intro r hr
  rw [hrows.absent r hr]
  exact Bool.false_ne_true

theorem find?_present (hrows : NoRow mysql rows userId) (hrow : Belongs mysql rows userId row) :
    ((rows ++ [row]).find? fun row => mysql.eq row.userId userId) = some row := by
  rw [List.find?_append, find?_absent hrows, Option.none_or, List.find?_singleton, hrow.userId]
  exact if_pos (beq_self_eq_true _)

theorem apply_insert_first (hrows : NoRow mysql rows userId)
    (hrow : Belongs mysql rows userId row) :
    mysql.apply rows (.insert row) = .ok (1, rows ++ [row]) := by
  have hfresh : mysql.fresh rows row = true := by
    rw [MySql.fresh, List.all_eq_true]
    intro r hr
    rw [hrow.userId, hrows.absent r hr, hrow.username r hr]
    rfl
  simp [MySql.apply, hrow.fits, hfresh]

theorem uniqueUsernames_append (hunique : mysql.uniqueUsernames rows = true)
    (hfresh : ∀ r ∈ rows, mysql.eq r.username row.username = false) :
    mysql.uniqueUsernames (rows ++ [row]) = true := by
  induction rows with
  | nil => rfl
  | cons r rows ih =>
    rw [MySql.uniqueUsernames, Bool.and_eq_true, List.all_eq_true] at hunique
    obtain ⟨hhead, htail⟩ := hunique
    have hother : mysql.eq row.username r.username = false := by
      have hr := hfresh r List.mem_cons_self
      rw [MySql.eq, beq_eq_false_iff_ne] at hr ⊢
      exact Ne.symm hr
    rw [List.cons_append, MySql.uniqueUsernames, Bool.and_eq_true, List.all_eq_true]
    refine ⟨fun r' hr' => ?_, ih htail fun r' hr' => hfresh r' (List.mem_cons_of_mem _ hr')⟩
    rcases List.mem_append.mp hr' with hr' | hr'
    · exact hhead r' hr'
    · obtain rfl := List.mem_singleton.mp hr'
      rw [hother]
      rfl

theorem updateWhere_present (hrows : NoRow mysql rows userId)
    (hrow : Belongs mysql rows userId row) (f : UserRow → UserRow) :
    mysql.updateWhere (rows ++ [row]) userId f =
      (if f row ≠ row then 1 else 0, rows ++ [f row]) := by
  have hown : mysql.eq row.userId userId = true := by
    rw [hrow.userId]
    exact beq_self_eq_true _
  have hcount : (rows.countP fun row => mysql.eq row.userId userId && f row != row) = 0 := by
    rw [List.countP_eq_zero]
    intro r hr
    simp [hrows.absent r hr]
  have hmap : (rows.map fun row => if mysql.eq row.userId userId then f row else row) = rows := by
    refine (List.map_congr_left fun r hr => ?_).trans (List.map_id rows)
    rw [hrows.absent r hr]
    rfl
  unfold MySql.updateWhere
  rw [List.countP_append, hcount, List.map_append, hmap, List.map_singleton, hown, if_pos rfl,
    List.countP_singleton, hown, Bool.true_and, Nat.zero_add]
  by_cases hsame : f row = row <;> simp [hsame]

theorem apply_update_first (hrows : NoRow mysql rows userId)
    (hrow : Belongs mysql rows userId row)
    (hnext : Belongs mysql rows userId (row.setAll fields)) :
    mysql.apply (rows ++ [row]) (.updateProfile userId fields) =
      .ok (if row.setAll fields ≠ row then 1 else 0, rows ++ [row.setAll fields]) := by
  have hfits : (rows ++ [row.setAll fields]).all UserRow.fits = true := by
    simp [List.all_append, hrows.fits, hnext.fits]
  have hunique := uniqueUsernames_append hrows.unique hnext.username
  simp only [MySql.apply, updateWhere_present hrows hrow, hfits, hunique, if_true, Bool.not_true,
    if_neg Bool.false_ne_true]

end Row

end TenantSaas
