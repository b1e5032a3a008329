import TenantSaas.Accounts.Actions
import TenantSaas.Credentials.Groups
import TenantSaas.Profile.Rows
import TenantSaas.Routes.AuthPages
import TenantSaas.Routes.Users

/-!
# One user on three paths

A user of the pool may come with a browser session, with a token, or through the API gateway.
The identities agree on tenant and role; the row each of them acts on is another matter.
-/

namespace TenantSaas

/-- A user of the pool, whose groups are of one tenant. -/
structure Principal where
  username : String
  sub : String
  groups : List String
  username_ne : username ≠ ""
  sub_ne : sub ≠ ""
  plain : ∀ name ∈ groups, PlainName name
  oneTenant : OneTenant groups
  known : ∃ group mapping, firstKnownGroup groups = some (group, mapping)

namespace Principal

variable (p : Principal)

/-- Claims of a token of the user; the two kinds of token name the user differently. -/
structure Claimed (claims : Claims) : Prop where
  groups : claims.groups = p.groups.map Json.str
  username : pyOr claims.cognitoUsername claims.username = some p.username
  sub : claims.sub = some p.sub

/-- Headers the gateway sends for the user. -/
structure Forwarded (config : Config) (request : Request) : Prop where
  trusted : TrustedHeaders config request
  groups : ∃ form : ListForm, request.header config.apiGwGroupsHeaderName = form.write p.groups
  sub : PyStr.strip (request.header config.apiGwSubHeaderName) = p.sub

end Principal

/-- A user id that `create_user` gives: the one in the form, or a part of a fresh uuid. -/
def GivenByCreate (world : World) (userId : String) : Prop :=
  ∃ request tick, (newUserDraw world request tick).1 = userId

/-- The row of a tenant that a username finds, under its own user id. -/
structure RowOf (config : Config) (world : World) (tenant username : String) (s : AppState)
    (row : UserRow) : Prop where
  named : namedRow config world tenant username s = some row
  keyed : (row.userId, row) ∈ keyedRows config tenant s
  given : GivenByCreate world row.userId

/-- The record a view reads and writes for an identity, with the id it is kept under. -/
def Selects (config : Config) (world : World) (s : AppState) (identity : Identity)
    (entry : String × UserRow) : Prop :=
  ∃ userId, Users.resolveUserId identity = .ok userId ∧
    (keyedRows config identity.tenant s).find?
      (fun entry => sameText config world entry.1 userId) = some entry

/-- The three identities have one tenant and one role, and act on one record. -/
structure SameUser (config : Config) (world : World) (s : AppState)
    (browser bearer gateway : Identity) : Prop where
  tenant : bearer.tenant = browser.tenant ∧ gateway.tenant = browser.tenant
  role : bearer.role = browser.role ∧ gateway.role = browser.role
  record : ∃ entry, Selects config world s browser entry ∧ Selects config world s bearer entry ∧
    Selects config world s gateway entry

/-! ## The three identities -/

section Paths

variable {config : Config} {world : World} {p : Principal} {s : AppState}

theorem resolveTenantAndRole_claimed {claims : Claims} (h : p.Claimed claims) :
    ∃ group mapping, firstKnownGroup p.groups = some (group, mapping) ∧
      resolveTenantAndRole claims = .ok {
        tenant := mapping.tenant
        role := mapping.role
        group := group
        username := some p.username
        email := claims.email
        sub := some p.sub
        userId := none
        profileComplete := false
        firstLogin := none
        passwordResetDone := false } := by
  obtain ⟨group, mapping, hknown⟩ := p.known
  refine ⟨group, mapping, hknown, ?_⟩
  unfold resolveTenantAndRole
  rw [h.groups, firstClaimedGroup_names, hknown, h.username, h.sub]

theorem givenByCreate_ne {userId : String} (h : GivenByCreate world userId) : userId ≠ "" := by
  obtain ⟨request, tick, rfl⟩ := h
  exact newUserDraw_ne world request tick

theorem resolveUserId_of_ne {identity : Identity} {userId : String} (h : userId ≠ "")
    (hid : identity.userId = some userId := by rfl) :
    Users.resolveUserId identity = .ok userId := by
  have htruthy : truthy (some userId) = true := by simpa using h
  unfold Users.resolveUserId pyOr
  rw [hid, if_pos htruthy]
  exact if_neg h

/-- The browser's identity has the user id of the row of its name. -/
theorem browser_selects {claims : Claims} (h : p.Claimed claims) {row : UserRow}
    {group : String} {mapping : GroupMapping}
    (hknown : firstKnownGroup p.groups = some (group, mapping))
    (hrow : RowOf config world mapping.tenant p.username s row) {browser : Identity}
    {t : AppState}
    (hrun : world.run (AuthPages.buildIdentity config claims) s = (.ok browser, t)) :
    browser.tenant = mapping.tenant ∧ browser.role = mapping.role ∧
      Users.resolveUserId browser = .ok row.userId := by
  obtain ⟨group', mapping', hknown', hresolved⟩ := resolveTenantAndRole_claimed h
  rw [hknown] at hknown'
  cases hknown'
  unfold AuthPages.buildIdentity at hrun
  rw [hresolved] at hrun
  obtain ⟨identity, u, hidentity, hrun⟩ := World.run_bind_eq_ok.mp hrun
  cases hidentity
  obtain ⟨record, u, hread, hret⟩ := World.run_bind_eq_ok.mp hrun
  obtain rfl := getUserByUsername_eq p.username_ne hread
  rw [hrow.named] at hret
  cases hret
  refine ⟨rfl, rfl, ?_⟩
  exact resolveUserId_of_ne (givenByCreate_ne hrow.given)

/-- The bearer's identity has the subject for its user id. -/
theorem bearer_selects {claims : Claims} (h : p.Claimed claims) {group : String}
    {mapping : GroupMapping} (hknown : firstKnownGroup p.groups = some (group, mapping))
    {request : Request} {token : String} (htoken : presentedToken request = some token)
    (hvalid : (world.run (validateJwt config token) s).1 = .ok claims) {bearer : Identity}
    {t : AppState}
    (hrun : world.run (resolveBearerJwtIdentity config request) s = (.ok (some bearer), t)) :
    bearer.tenant = mapping.tenant ∧ bearer.role = mapping.role ∧
      Users.resolveUserId bearer = .ok p.sub := by
  obtain ⟨group', mapping', hknown', hresolved⟩ := resolveTenantAndRole_claimed h
  rw [hknown] at hknown'
  cases hknown'
  rcases hvalidated : world.run (validateJwt config token) s with ⟨r, u⟩
  rw [hvalidated] at hvalid
  obtain rfl : r = .ok claims := hvalid
  have hnonempty : token ≠ "" := by
    intro heq
    subst heq
    unfold resolveBearerJwtIdentity at hrun
    rw [htoken] at hrun
    cases hrun
  rw [run_resolveBearerJwtIdentity htoken hnonempty hvalidated hresolved] at hrun
  cases hrun
  refine ⟨rfl, rfl, ?_⟩
  have hsub : pyOr (some p.sub) (some p.username) = some p.sub := by
    simp [pyOr, p.sub_ne]
  rw [hsub]
  exact resolveUserId_of_ne p.sub_ne

/-- The gateway's identity has the subject for its user id. -/
theorem gateway_selects {request : Request} (h : p.Forwarded config request) {group : String}
    {mapping : GroupMapping} (hknown : firstKnownGroup p.groups = some (group, mapping))
    {gateway : Identity} (hresolved : resolveTrustedHeaderIdentity config request = .ok gateway) :
    gateway.tenant = mapping.tenant ∧ gateway.role = mapping.role ∧
      Users.resolveUserId gateway = .ok p.sub := by
  obtain ⟨form, hform⟩ := h.groups
  have hread := forwardedGroups_write p.plain form
  rw [← hform] at hread
  obtain ⟨group', mapping', hgroups, rfl⟩ :=
    (resolveTrustedHeaderIdentity_eq_ok h.trusted).mp hresolved
  rw [hread, resolveGroups_nonempty, resolveGroups_oneTenant p.oneTenant, hknown] at hgroups
  cases hgroups
  refine ⟨rfl, rfl, ?_⟩
  unfold headerIdentity
  rw [h.sub]
  exact resolveUserId_of_ne p.sub_ne

/-! ## The records they select -/

/-- A read under an identity shows the record it selects. -/
theorem Selects.read {identity : Identity} {entry : String × UserRow}
    (h : Selects config world s identity entry) {userId : String}
    (hid : Users.resolveUserId identity = .ok userId) (hne : userId ≠ "")
    {record : Option UserRow} {t : AppState}
    (hrun : world.run (getUserById config identity.tenant userId) s = (.ok record, t)) :
    record = some entry.2 := by
  obtain ⟨userId', hid', hfind⟩ := h
  rw [hid] at hid'
  cases hid'
  rw [getUserById_eq hne hrun, storedRow, hfind]
  rfl

theorem selects_iff {identity : Identity} {userId : String}
    (hid : Users.resolveUserId identity = .ok userId) {entry : String × UserRow} :
    Selects config world s identity entry ↔
      (keyedRows config identity.tenant s).find?
        (fun entry => sameText config world entry.1 userId) = some entry := by
  constructor
  · intro h
    obtain ⟨userId', hid', hfind⟩ := h
    rw [hid] at hid'
    cases hid'
    exact hfind
  · intro hfind
    exact ⟨userId, hid, hfind⟩

/-- Two ids find one record only if they are the same to the store. -/
theorem sameText_of_find? {tenant a b : String} {entry : String × UserRow}
    (ha : (keyedRows config tenant s).find? (fun entry => sameText config world entry.1 a) =
      some entry)
    (hb : (keyedRows config tenant s).find? (fun entry => sameText config world entry.1 b) =
      some entry) :
    sameText config world a b = true := by
  have hkeyA : sameText config world entry.1 a = true :=
    List.find?_some (p := fun entry : String × UserRow => sameText config world entry.1 a) ha
  have hkeyB : sameText config world entry.1 b = true :=
    List.find?_some (p := fun entry : String × UserRow => sameText config world entry.1 b) hb
  rw [sameText_iff] at hkeyA hkeyB ⊢
  exact hkeyA.symm.trans hkeyB

/-- The record of an id that has one, also found by every id that is the same. -/
theorem exists_find? {tenant a b : String} {row : UserRow}
    (hrow : (a, row) ∈ keyedRows config tenant s) (hsame : sameText config world a b = true) :
    ∃ entry,
      (keyedRows config tenant s).find? (fun entry => sameText config world entry.1 a) =
        some entry ∧
      (keyedRows config tenant s).find? (fun entry => sameText config world entry.1 b) =
        some entry := by
  have hkeys : ∀ text, sameText config world text b = sameText config world text a := by
    intro text
    rw [Bool.eq_iff_iff, sameText_iff, sameText_iff, sameText_iff.mp hsame]
  have hfound : ((keyedRows config tenant s).find?
      fun entry => sameText config world entry.1 a).isSome = true :=
    List.find?_isSome.mpr ⟨(a, row), hrow, sameText_iff.mpr rfl⟩
  obtain ⟨entry, hentry⟩ := Option.isSome_iff_exists.mp hfound
  refine ⟨entry, hentry, ?_⟩
  simp only [hkeys]
  exact hentry

/-- The three paths lead to one user exactly when the user id of the row is the subject. -/
theorem sameUser_iff (config : Config) (world : World) (s : AppState) (p : Principal)
    {idClaims accessClaims : Claims} {bearing forwarded : Request} {token group : String}
    {mapping : GroupMapping} {row : UserRow} {browser bearer gateway : Identity}
    {s' t t' : AppState}
    (hknown : firstKnownGroup p.groups = some (group, mapping))
    (hrow : RowOf config world mapping.tenant p.username s row)
    (hid : p.Claimed idClaims)
    (hbrowser : world.run (AuthPages.buildIdentity config idClaims) s = (.ok browser, t))
    (htoken : presentedToken bearing = some token) (haccess : p.Claimed accessClaims)
    (hvalid : (world.run (validateJwt config token) s').1 = .ok accessClaims)
    (hbearer : world.run (resolveBearerJwtIdentity config bearing) s' = (.ok (some bearer), t'))
    (hforwarded : p.Forwarded config forwarded)
    (hgateway : resolveTrustedHeaderIdentity config forwarded = .ok gateway) :
    SameUser config world s browser bearer gateway ↔
      sameText config world row.userId p.sub = true := by
  obtain ⟨htenant₁, hrole₁, hid₁⟩ := browser_selects hid hknown hrow hbrowser
  obtain ⟨htenant₂, hrole₂, hid₂⟩ := bearer_selects haccess hknown htoken hvalid hbearer
  obtain ⟨htenant₃, hrole₃, hid₃⟩ := gateway_selects hforwarded hknown hgateway
  constructor
  · intro h
    obtain ⟨-, -, entry, hentry₁, hentry₂, -⟩ := h
    rw [selects_iff hid₁, htenant₁] at hentry₁
    rw [selects_iff hid₂, htenant₂] at hentry₂
    exact sameText_of_find? hentry₁ hentry₂
  · intro hsame
    obtain ⟨entry, hentry, hentry'⟩ := exists_find? hrow.keyed hsame
    refine ⟨⟨?_, ?_⟩, ⟨?_, ?_⟩, entry, ?_, ?_, ?_⟩
    · rw [htenant₂, htenant₁]
    · rw [htenant₃, htenant₁]
    · rw [hrole₂, hrole₁]
    · rw [hrole₃, hrole₁]
    · rwa [selects_iff hid₁, htenant₁]
    · rwa [selects_iff hid₂, htenant₂]
    · rwa [selects_iff hid₃, htenant₃]

end Paths

/-! ## A user whose row has an id of its own -/

def grace : Principal where
  username := "grace"
  sub := "sub-7"
  groups := ["TenantB_user"]
  username_ne := by decide
  sub_ne := by decide
  plain := by decide
  oneTenant := by
    intro group hgroup mapping hlookup group' hgroup' mapping' hlookup'
    rw [List.mem_singleton] at hgroup hgroup'
    rw [hgroup] at hlookup
    rw [hgroup', hlookup] at hlookup'
    cases hlookup'
    rfl
  known := ⟨_, _, rfl⟩

/-- The row an administrator created for her under a user id. -/
def graceRow (userId : String) : UserRow :=
  .withDefaults userId "grace" "grace@b.example" "user"

def graceState (userId : String) : AppState := { emptyState with
  rds := ⟨fun table => if table = .tenantB then [graceRow userId] else [], fun _ => []⟩ }

/-- Every token is one of hers. -/
def graceWorld : World := { quietWorld with
  jwt := fun _ _ => .ok (memberClaims grace.groups) }

/-- A request with her token. -/
def bearerRequest : Request where
  method := "GET"
  path := "/users/details"
  headers name := if name = "Authorization" then some "Bearer eyJ" else none
  cookies _ := none
  args _ := none
  form _ := none

/-- Her identity with a user id, as the three paths fill it. -/
def graceIdentity (userId : String) (profileComplete : Bool) (firstLogin : Option Bool) :
    Identity where
  tenant := "TenantB"
  role := "user"
  group := "TenantB_user"
  username := some "grace"
  email := none
  sub := some "sub-7"
  userId := some userId
  profileComplete := profileComplete
  firstLogin := firstLogin
  passwordResetDone := false

theorem grace_claimed : grace.Claimed (memberClaims grace.groups) := ⟨rfl, rfl, rfl⟩

theorem grace_forwarded : grace.Forwarded gatewayConfig (gatewayRequest .json grace.groups) :=
  ⟨gatewayRequest_trusted _ _, ⟨.json, rfl⟩, by decide⟩

theorem grace_rowOf {userId : String} {request : Request}
    (h : PyStr.strip (request.field "user_id") = userId) (hne : userId ≠ "") :
    RowOf gatewayConfig graceWorld "TenantB" grace.username (graceState userId)
      (graceRow userId) := by
  refine ⟨rfl, List.mem_singleton_self _, request, 0, ?_⟩
  unfold newUserDraw
  rw [if_neg (by rwa [h])]
  exact h

theorem grace_browser (userId : String) : ∃ t,
    graceWorld.run (AuthPages.buildIdentity gatewayConfig (memberClaims grace.groups))
      (graceState userId) = (.ok (graceIdentity userId false (some true)), t) := ⟨_, rfl⟩

theorem grace_bearer (userId : String) : ∃ t,
    graceWorld.run (resolveBearerJwtIdentity gatewayConfig bearerRequest) (graceState userId) =
      (.ok (some (graceIdentity "sub-7" true none)), t) := ⟨_, by rfl⟩

theorem grace_gateway :
    resolveTrustedHeaderIdentity gatewayConfig (gatewayRequest .json grace.groups) =
      .ok (graceIdentity "sub-7" true none) := by
  refine (resolveTrustedHeaderIdentity_eq_ok (gatewayRequest_trusted _ _)).mpr
    ⟨"TenantB_user", ⟨"TenantB", "user"⟩, ?_, ?_⟩
  · decide
  · decide

/-- The form of `create_user` that gives her row the subject for its id. -/
def createRequest (userId : String) : Request where
  method := "POST"
  path := "/api/v1/admin/users"
  headers _ := none
  cookies _ := none
  args _ := none
  form name := if name = "user_id" then some userId else none

/-- Her row was created under her subject. -/
theorem subject_is_key : SameUser gatewayConfig graceWorld (graceState "sub-7")
    (graceIdentity "sub-7" false (some true)) (graceIdentity "sub-7" true none)
    (graceIdentity "sub-7" true none) := by
  obtain ⟨t, hbrowser⟩ := grace_browser "sub-7"
  obtain ⟨t', hbearer⟩ := grace_bearer "sub-7"
  have hrow := @grace_rowOf "sub-7" (createRequest "sub-7") (by decide) (by decide)
  exact (sameUser_iff gatewayConfig graceWorld (graceState "sub-7") grace rfl hrow grace_claimed
    hbrowser rfl grace_claimed rfl hbearer grace_forwarded grace_gateway).mpr rfl

/-- Her row was created under an id of the tenant's own. -/
theorem subject_is_not_key : ¬ ∀ (config : Config) (world : World) (s : AppState) (p : Principal)
    (idClaims accessClaims : Claims) (bearing forwarded : Request) (token group : String)
    (mapping : GroupMapping) (row : UserRow) (browser bearer gateway : Identity)
    (s' t t' : AppState),
    firstKnownGroup p.groups = some (group, mapping) →
    RowOf config world mapping.tenant p.username s row →
    p.Claimed idClaims →
    world.run (AuthPages.buildIdentity config idClaims) s = (.ok browser, t) →
    presentedToken bearing = some token → p.Claimed accessClaims →
    (world.run (validateJwt config token) s').1 = .ok accessClaims →
    world.run (resolveBearerJwtIdentity config bearing) s' = (.ok (some bearer), t') →
    p.Forwarded config forwarded →
    resolveTrustedHeaderIdentity config forwarded = .ok gateway →
    SameUser config world s browser bearer gateway := by
  intro h
  obtain ⟨t, hbrowser⟩ := grace_browser "u-1"
  obtain ⟨t', hbearer⟩ := grace_bearer "u-1"
  have hrow := @grace_rowOf "u-1" (createRequest "u-1") (by decide) (by decide)
  obtain ⟨-, -, entry, -, ⟨userId, hid, hfind⟩, -⟩ := h gatewayConfig graceWorld (graceState "u-1")
    grace _ _ _ _ _ _ _ _ _ _ _ _ _ _ rfl hrow grace_claimed hbrowser rfl grace_claimed rfl
    hbearer grace_forwarded grace_gateway
  cases hid
  cases hfind

end TenantSaas
