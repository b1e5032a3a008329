import TenantSaas.App.Op

/-!
# Tokens and groups

`auth.py`: the checks after a token's signature, and the tenant and role of its first known
group.
-/

namespace TenantSaas

/-- `validate_jwt` (`auth.py:45-82`); `decodeJwt` is `jwt.decode` with the pool's key. -/
def validateJwt (config : Config) (token : String) : App Claims := do
  let claims ← perform (.decodeJwt token)
  if config.demoMode then pure claims
  else if claims.tokenUse ≠ some "id" ∧ claims.tokenUse ≠ some "access" then
    throw (.invalidTokenError "Unexpected token_use claim")
  else do
    let now ← perform .time
    if claims.exp.getD 0 < now then throw (.invalidTokenError "Token expired") else pure claims

/-- The first name the map knows. -/
def firstKnownGroup : List String → Option (String × GroupMapping)
  | [] => none
  | group :: groups =>
    match cognitoGroupMap.lookup group with
    | some mapping => some (group, mapping)
    | none => firstKnownGroup groups

/-- The first of the claimed groups that the map knows.  A dict is not asked for a list or an
object, and strings are its only keys. -/
def firstClaimedGroup : List Json → Except PyError (Option (String × GroupMapping))
  | [] => .ok none
  | .str group :: groups =>
    match cognitoGroupMap.lookup group with
    | some mapping => .ok (some (group, mapping))
    | none => firstClaimedGroup groups
  | group :: groups => if group.isHashable then firstClaimedGroup groups else .error .typeError

/-- `resolve_tenant_and_role` (`auth.py:85-106`) -/
def resolveTenantAndRole (claims : Claims) : Except PyError Identity :=
  match firstClaimedGroup claims.groups with
  | .ok (some (group, mapping)) => .ok {
      tenant := mapping.tenant
      role := mapping.role
      group := group
      username := pyOr claims.cognitoUsername claims.username
      email := claims.email
      sub := claims.sub
      userId := none
      profileComplete := false
      firstLogin := none
      passwordResetDone := false }
  | .ok none => .error (.invalidTokenError "Token does not contain a recognized tenant/role group")
  | .error e => .error e

/-! ## The groups -/

@[simp] theorem firstClaimedGroup_names (names : List String) :
    firstClaimedGroup (names.map Json.str) = .ok (firstKnownGroup names) := by
  induction names with
  | nil => rfl
  | cons name names ih =>
    rw [List.map_cons, firstClaimedGroup, firstKnownGroup, ih]
    cases cognitoGroupMap.lookup name <;> rfl

/-- A value that is no string is passed over or raises. -/
theorem firstClaimedGroup_cons {group : Json} (groups : List Json)
    (h : ∀ name, group ≠ .str name) : firstClaimedGroup (group :: groups) =
      if group.isHashable then firstClaimedGroup groups else .error .typeError := by
  cases group with
  | str name => exact absurd rfl (h name)
  | _ => rfl

theorem mem_of_firstClaimedGroup {groups : List Json} {group : String} {mapping : GroupMapping}
    (h : firstClaimedGroup groups = .ok (some (group, mapping))) :
    Json.str group ∈ groups ∧ cognitoGroupMap.lookup group = some mapping := by
  induction groups with
  | nil => cases h
  | cons head groups ih =>
    by_cases hname : ∃ name, head = .str name
    · obtain ⟨name, rfl⟩ := hname
      rw [firstClaimedGroup] at h
      cases hlookup : cognitoGroupMap.lookup name with
      | none =>
        rw [hlookup] at h
        exact ⟨List.mem_cons_of_mem _ (ih h).1, (ih h).2⟩
      | some found =>
        rw [hlookup] at h
        cases h
        exact ⟨List.mem_cons_self, hlookup⟩
    · rw [firstClaimedGroup_cons groups fun name h => hname ⟨name, h⟩] at h
      split at h
      · exact ⟨List.mem_cons_of_mem _ (ih h).1, (ih h).2⟩
      · cases h

theorem mem_of_firstKnownGroup {groups : List String} {group : String} {mapping : GroupMapping}
    (h : firstKnownGroup groups = some (group, mapping)) :
    group ∈ groups ∧ cognitoGroupMap.lookup group = some mapping := by
  have hclaimed : firstClaimedGroup (groups.map Json.str) = .ok (some (group, mapping)) := by
    rw [firstClaimedGroup_names, h]
  obtain ⟨hmem, hlookup⟩ := mem_of_firstClaimedGroup hclaimed
  obtain ⟨name, hname, hsame⟩ := List.mem_map.mp hmem
  exact ⟨Json.str.inj hsame ▸ hname, hlookup⟩

end TenantSaas
