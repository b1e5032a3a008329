import TenantSaas.Credentials.Groups

/-!
# Renderings of the groups header

API Gateway turns the groups claim into a text in one of five ways.  `decorators.py` strips
the text, its brackets and its quotes, and splits it at the commas.
-/

namespace TenantSaas

/-- How a list of groups arrives in a header. -/
inductive Rendering where
  /-- `a,b` -/
  | compact
  /-- `a, b` -/
  | spaced
  /-- `[a, b]` -/
  | bracketed
  /-- `["a","b"]` -/
  | json
  /-- `["a", "b"]` -/
  | jsonSpaced

namespace Rendering

def write (names : List String) : Rendering → String
  | compact => ",".intercalate names
  | spaced => ", ".intercalate names
  | bracketed => "[" ++ ", ".intercalate names ++ "]"
  | json => "[" ++ ",".intercalate (names.map fun name => "\"" ++ name ++ "\"") ++ "]"
  | jsonSpaced => "[" ++ ", ".intercalate (names.map fun name => "\"" ++ name ++ "\"") ++ "]"

example : json.write ["Tenants-Admin", "TenantA-Users"] =
    "[\"Tenants-Admin\",\"TenantA-Users\"]" := by decide

section Write

variable {names : List String}

/-- Plain names between separators begin and end with a name's own characters. -/
theorem intercalate_ends {separator : String} {c : Char} (h : ∀ name ∈ names, PlainName name)
    (nonempty : ∀ name ∈ names, name ≠ "")
    (hc : c ∈ (separator.intercalate names).toList.head? ∨
      c ∈ (separator.intercalate names).toList.getLast?) : PyStr.isSpace c = false := by
  have hitems : ∀ item ∈ names.map String.toList, item ≠ [] := by
    intro item hitem
    obtain ⟨name, hname, rfl⟩ := List.mem_map.mp hitem
    exact fun hnil => nonempty name hname (String.toList_eq_nil_iff.mp hnil)
  have hend : ∃ item ∈ names.map String.toList, c ∈ item.head? ∨ c ∈ item.getLast? := by
    rw [String.toList_intercalate] at hc
    rcases hc with hc | hc
    · obtain ⟨item, hitem, hc⟩ := PyStr.head?_intercalate hitems hc
      exact ⟨item, hitem, .inl hc⟩
    · obtain ⟨item, hitem, hc⟩ := PyStr.getLast?_intercalate hitems hc
      exact ⟨item, hitem, .inr hc⟩
  obtain ⟨item, hitem, hc⟩ := hend
  obtain ⟨name, hname, rfl⟩ := List.mem_map.mp hitem
  rw [← (h name hname).strip] at hc
  exact PyStr.stripChars_ends hc

/-- Brackets are no white space. -/
theorem brackets_ends {inner : String} {c : Char} (hc : c ∈ ("[" ++ inner ++ "]").toList.head? ∨
    c ∈ ("[" ++ inner ++ "]").toList.getLast?) : PyStr.isSpace c = false := by
  rw [String.toList_append, String.toList_append] at hc
  rcases hc with hc | hc
  · obtain rfl : '[' = c := by simpa using hc
    decide
  · rw [List.getLast?_append] at hc
    obtain rfl : ']' = c := by simpa using hc
    decide

theorem write_ends {c : Char} (h : ∀ name ∈ names, PlainName name)
    (nonempty : ∀ name ∈ names, name ≠ "") (rendering : Rendering)
    (hc : c ∈ (rendering.write names).toList.head? ∨
      c ∈ (rendering.write names).toList.getLast?) : PyStr.isSpace c = false := by
  cases rendering with
  | compact => exact intercalate_ends h nonempty hc
  | spaced => exact intercalate_ends h nonempty hc
  | bracketed => exact brackets_ends hc
  | json => exact brackets_ends hc
  | jsonSpaced => exact brackets_ends hc

theorem forwardedGroups_rendering (h : ∀ name ∈ names, PlainName name) (rendering : Rendering) :
    forwardedGroups (rendering.write names) = names.filter (· != "") := by
  cases rendering with
  | compact =>
    have hwrite : compact.write names = "" ++ listText "," "" names ++ "" := by
      rw [listText_bare, String.empty_append, String.append_empty, write]
    rw [hwrite]
    exact forwardedGroups_listText h (by simp) (by simp) (by simp) (.inl rfl)
  | spaced =>
    have hwrite : spaced.write names = "" ++ listText ", " "" names ++ "" := by
      rw [listText_bare, String.empty_append, String.append_empty, write]
    rw [hwrite]
    exact forwardedGroups_listText h (by simp) (by simp) (by simp) (.inr rfl)
  | bracketed =>
    rw [write, ← listText_bare]
    exact forwardedGroups_listText h (by simp) (by simp) (by simp) (.inr rfl)
  | json =>
    exact @forwardedGroups_listText names h "[" "]" "," "\"" (by simp) (by simp) (by simp)
      (.inl rfl)
  | jsonSpaced =>
    exact @forwardedGroups_listText names h "[" "]" ", " "\"" (by simp) (by simp) (by simp)
      (.inr rfl)

/-- The parser undoes every rendering, with white space around it or not. -/
theorem forwardedGroups_write_padded (names : List String) (h : ∀ name ∈ names, PlainName name)
    (nonempty : ∀ name ∈ names, name ≠ "") (rendering : Rendering) (before after : String)
    (hbefore : ∀ c ∈ before.toList, PyStr.isSpace c = true)
    (hafter : ∀ c ∈ after.toList, PyStr.isSpace c = true) :
    forwardedGroups (PyStr.strip (before ++ rendering.write names ++ after)) = names := by
  rw [PyStr.strip_padded hbefore hafter (fun c hc => write_ends h nonempty rendering (.inl hc))
    fun c hc => write_ends h nonempty rendering (.inr hc), forwardedGroups_rendering h,
    List.filter_eq_self]
  intro name hname
  simpa using nonempty name hname

end Write

end Rendering

theorem forwardedGroups_two_groups :
    forwardedGroups (PyStr.strip " [\"Tenants-Admin\", \"TenantA-Users\"]\t") =
      ["Tenants-Admin", "TenantA-Users"] :=
  Rendering.forwardedGroups_write_padded ["Tenants-Admin", "TenantA-Users"]
    (by simp only [List.forall_mem_cons]; decide) (by decide) .jsonSpaced " " "\t"
    (by simp [PyStr.isSpace]) (by simp [PyStr.isSpace])

end TenantSaas
