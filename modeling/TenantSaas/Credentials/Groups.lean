import TenantSaas.App.World
import TenantSaas.Web.Decorators

/-!
# Groups of a token and groups of the headers

The two places that turn group names into a tenant and a role: `resolve_tenant_and_role` stops
at the first known group, `_resolve_trusted_header_identity` reads on and compares tenants.
Last, what the first scan makes of another order of the same groups.
-/

namespace TenantSaas

/-- A name without commas, quotes, brackets and surrounding white space. -/
def PlainName (name : String) : Prop :=
  (∀ c ∈ name.toList, c ≠ ',' ∧ c ≠ '"' ∧ c ≠ '[' ∧ c ≠ ']') ∧ PyStr.strip name = name

instance (name : String) : Decidable (PlainName name) :=
  @instDecidableAnd _ _ (List.decidableBAll _ name.toList) (inferInstanceAs (Decidable (_ = _)))

/-- How a header can write a list of names. -/
inductive ListForm where
  /-- `a,b` -/
  | bare
  /-- `[a,b]` -/
  | bracketed
  /-- `["a", "b"]` -/
  | json

def ListForm.write (names : List String) : ListForm → String
  | bare => ",".intercalate names
  | bracketed => "[" ++ ",".intercalate names ++ "]"
  | json => "[" ++ ", ".intercalate (names.map fun name => "\"" ++ name ++ "\"") ++ "]"

/-! ## Reading the header -/

section Header

variable {names : List String}

/-- What is between the brackets of a header, without the quotes, separated by commas. -/
theorem forwardedGroups_eq {text : String} {items : List (List Char)}
    (htext : (PyStr.replace (PyStr.stripOf ['[', ']'] text) "\"" "").toList =
      [','].intercalate items) (hitems : ∀ item ∈ items, ',' ∉ item) :
    forwardedGroups text =
      (items.map fun item => String.ofList (PyStr.stripChars item)).filter (· != "") := by
  have hstrip : ∀ item : List Char,
      PyStr.strip (String.ofList item) = String.ofList (PyStr.stripChars item) := by
    intro item
    rw [PyStr.strip, String.toList_ofList]
  unfold forwardedGroups PyStr.split
  rw [htext, List.map_map]
  cases items with
  | nil => simp [List.intercalate_nil, hstrip, PyStr.stripChars]
  | cons item items =>
    rw [List.splitOn_intercalate ',' hitems (by simp)]
    have hmap : List.map (PyStr.strip ∘ String.ofList) (item :: items) =
        List.map (fun item => String.ofList (PyStr.stripChars item)) (item :: items) :=
      List.map_congr_left fun item _ => hstrip item
    rw [hmap]

theorem PlainName.strip {name : String} (h : PlainName name) :
    PyStr.stripChars name.toList = name.toList := by
  have hstrip := congrArg String.toList h.2
  rwa [PyStr.strip, String.toList_ofList] at hstrip

theorem PlainName.notMem {name : String} (h : PlainName name) {c : Char}
    (hc : c = ',' ∨ c = '"' ∨ c = '[' ∨ c = ']') : c ∉ name.toList := by
  intro hmem
  obtain ⟨hcomma, hquote, hopen, hclose⟩ := h.1 c hmem
  rcases hc with hc | hc | hc | hc
  · exact hcomma hc
  · exact hquote hc
  · exact hopen hc
  · exact hclose hc

/-- The names come back, whatever stands before each of them that stripping takes away. -/
theorem stripped_names (h : ∀ name ∈ names, PlainName name) :
    (names.map fun name => String.ofList (PyStr.stripChars name.toList)) = names := by
  calc (names.map fun name => String.ofList (PyStr.stripChars name.toList))
    _ = names.map id := by
      refine List.map_congr_left fun name hname => ?_
      rw [(h name hname).strip, String.ofList_toList, id]
    _ = names := List.map_id names

/-- Brackets and quotes taken off what a form puts around them. -/
theorem unwrapped_eq {before inner after : String} (hbefore : ∀ c ∈ before.toList, c = '[')
    (hafter : ∀ c ∈ after.toList, c = ']') (hinner : ∀ c ∈ inner.toList, c ≠ '[' ∧ c ≠ ']') :
    (PyStr.replace (PyStr.stripOf ['[', ']'] (before ++ inner ++ after)) "\"" "").toList =
      inner.toList.filter (· != '"') := by
  have htrim : PyStr.stripOf ['[', ']'] (before ++ inner ++ after) = inner := by
    unfold PyStr.stripOf
    rw [String.toList_append, String.toList_append, PyStr.trim_wrapped, String.ofList_toList]
    · intro c hc
      simp [hbefore c hc]
    · intro c hc
      simp [hafter c hc]
    · intro c hc
      simp [hinner c (List.mem_of_mem_head? hc)]
    · intro c hc
      simp [hinner c (List.mem_of_mem_getLast? hc)]
  rw [htrim, PyStr.replace, String.toList_ofList]
  exact PyStr.replaceChars_remove '"' _

theorem toList_bare : (ListForm.bare.write names).toList =
    [','].intercalate (names.map String.toList) := String.toList_intercalate

/-- A bare list of plain names has no white space at its ends. -/
theorem bare_ends {c : Char} (h : ∀ name ∈ names, PlainName name)
    (hc : c ∈ ([','].intercalate (names.map String.toList)).head? ∨
      c ∈ ([','].intercalate (names.map String.toList)).getLast?) : PyStr.isSpace c = false := by
  rcases PyStr.ends_intercalate hc with rfl | ⟨item, hitem, hend⟩
  · decide
  · obtain ⟨name, hname, rfl⟩ := List.mem_map.mp hitem
    rw [← (h name hname).strip] at hend
    exact PyStr.stripChars_ends hend

theorem strip_bracketed (inner : String) :
    PyStr.strip ("[" ++ inner ++ "]") = "[" ++ inner ++ "]" := by
  have htext : ("[" ++ inner ++ "]").toList = '[' :: (inner.toList ++ [']']) := by
    rw [String.toList_append, String.toList_append]
    rfl
  rw [PyStr.strip, htext, PyStr.stripChars, PyStr.trim_of_ends, ← htext, String.ofList_toList]
  · rintro c ⟨⟩
    decide
  · rw [← List.cons_append, List.getLast?_append]
    rintro c ⟨⟩
    decide

theorem forwardedGroups_wrapped {before inner after : String} {items : List (List Char)}
    (hbefore : ∀ c ∈ before.toList, c = '[') (hafter : ∀ c ∈ after.toList, c = ']')
    (hinner : ∀ c ∈ inner.toList, c ≠ '[' ∧ c ≠ ']')
    (htext : inner.toList.filter (· != '"') = [','].intercalate items)
    (hcomma : ∀ item ∈ items, ',' ∉ item)
    (hnames : (items.map fun item => String.ofList (PyStr.stripChars item)) = names) :
    forwardedGroups (before ++ inner ++ after) = names.filter (· != "") := by
  rw [forwardedGroups_eq ((unwrapped_eq hbefore hafter hinner).trans htext) hcomma, hnames]

theorem filter_quotes (h : ∀ name ∈ names, PlainName name) :
    (names.map String.toList).map (List.filter (· != '"')) = names.map String.toList := by
  rw [List.map_map]
  refine List.map_congr_left fun name hname => ?_
  rw [Function.comp_apply, List.filter_eq_self]
  intro c hc
  simpa using ((h name hname).1 c hc).2.1

theorem filter_quoted (h : ∀ name ∈ names, PlainName name) {quote : String}
    (hquote : ∀ c ∈ quote.toList, c = '"') :
    ((names.map fun name => quote ++ name ++ quote).map String.toList).map
      (List.filter (· != '"')) = names.map String.toList := by
  have hnone : quote.toList.filter (· != '"') = [] := by
    rw [List.filter_eq_nil_iff]
    intro c hc
    simp [hquote c hc]
  rw [← filter_quotes h, List.map_map, List.map_map, List.map_map]
  refine List.map_congr_left fun name _ => ?_
  simp only [Function.comp_apply, String.toList_append, List.filter_append, hnone]
  exact List.append_nil _

/-- A list without brackets in its names and its separator has none. -/
theorem no_brackets {sep : String} {items : List String}
    (hsep : ∀ c ∈ sep.toList, c ≠ '[' ∧ c ≠ ']')
    (hitems : ∀ item ∈ items, ∀ c ∈ item.toList, c ≠ '[' ∧ c ≠ ']') :
    ∀ c ∈ (sep.intercalate items).toList, c ≠ '[' ∧ c ≠ ']' := by
  intro c hc
  rw [String.toList_intercalate] at hc
  rcases PyStr.mem_intercalate hc with hc | ⟨item, hitem, hc⟩
  · exact hsep c hc
  · obtain ⟨name, hname, rfl⟩ := List.mem_map.mp hitem
    exact hitems name hname c hc

theorem PlainName.quoted_chars {name quote : String} (h : PlainName name)
    (hquote : ∀ c ∈ quote.toList, c = '"') :
    ∀ c ∈ (quote ++ name ++ quote).toList, c ≠ '[' ∧ c ≠ ']' := by
  have hmark : ∀ c ∈ quote.toList, c ≠ '[' ∧ c ≠ ']' := by
    intro c hc
    rw [hquote c hc]
    decide
  intro c hc
  rw [String.toList_append, String.toList_append, List.mem_append, List.mem_append] at hc
  rcases hc with (hc | hc) | hc
  · exact hmark c hc
  · exact (h.1 c hc).2.2
  · exact hmark c hc

/-- The names of a header, each between quotes, with a separator between two. -/
def listText (separator quote : String) (names : List String) : String :=
  separator.intercalate (names.map fun name => quote ++ name ++ quote)

theorem listText_bare (separator : String) (names : List String) :
    listText separator "" names = separator.intercalate names := by
  unfold listText
  simp

/-- Quotes, spaces after commas and brackets at the ends are read over. -/
theorem forwardedGroups_listText (h : ∀ name ∈ names, PlainName name)
    {before after separator quote : String} (hbefore : ∀ c ∈ before.toList, c = '[')
    (hafter : ∀ c ∈ after.toList, c = ']') (hquote : ∀ c ∈ quote.toList, c = '"')
    (hseparator : separator = "," ∨ separator = ", ") :
    forwardedGroups (before ++ listText separator quote names ++ after) =
      names.filter (· != "") := by
  have hinner : ∀ c ∈ (listText separator quote names).toList, c ≠ '[' ∧ c ≠ ']' := by
    refine no_brackets (by rcases hseparator with rfl | rfl <;> simp) fun item hitem => ?_
    obtain ⟨name, hname, rfl⟩ := List.mem_map.mp hitem
    exact (h name hname).quoted_chars hquote
  have htext : (listText separator quote names).toList.filter (· != '"') =
      (separator.toList.filter (· != '"')).intercalate (names.map String.toList) := by
    rw [listText, String.toList_intercalate, PyStr.filter_intercalate, filter_quoted h hquote]
  have hcomma : ∀ item ∈ names.map String.toList, ',' ∉ item := by
    intro item hitem
    obtain ⟨name, hname, rfl⟩ := List.mem_map.mp hitem
    exact (h name hname).notMem (.inl rfl)
  have hnames : ((names.map String.toList).map fun item =>
      String.ofList (PyStr.stripChars item)) = names := by
    rw [List.map_map]
    exact stripped_names h
  rcases hseparator with rfl | rfl
  · exact forwardedGroups_wrapped hbefore hafter hinner htext hcomma hnames
  · -- a space after a comma goes to the name it stands before
    refine forwardedGroups_wrapped hbefore hafter hinner
      (htext.trans (PyStr.intercalate_spaced _)) (fun item hitem => ?_) ?_
    · rcases PyStr.mem_spaced hitem with hitem | ⟨found, hfound, rfl⟩
      · exact hcomma item hitem
      · simpa using hcomma found hfound
    · rw [PyStr.map_spaced fun _ => rfl]
      exact hnames

/-- A header that lists plain names, in whatever form, is read as these names. -/
theorem forwardedGroups_write (h : ∀ name ∈ names, PlainName name) (form : ListForm) :
    forwardedGroups (PyStr.strip (form.write names)) = names.filter (· != "") := by
  cases form with
  | bare =>
    have hstrip : PyStr.strip (ListForm.bare.write names) = "" ++ listText "," "" names ++ "" := by
      rw [String.empty_append, String.append_empty, listText_bare, PyStr.strip, toList_bare,
        PyStr.stripChars, PyStr.trim_of_ends (fun c hc => bare_ends h (.inl hc)) fun c hc =>
          bare_ends h (.inr hc), ← toList_bare, String.ofList_toList]
      rfl
    rw [hstrip]
    exact forwardedGroups_listText h (by simp) (by simp) (by simp) (.inl rfl)
  | bracketed =>
    rw [ListForm.write, strip_bracketed, ← listText_bare]
    exact forwardedGroups_listText h (by simp) (by simp) (by simp) (.inl rfl)
  | json =>
    rw [ListForm.write, strip_bracketed]
    exact @forwardedGroups_listText names h "[" "]" ", " "\"" (by simp) (by simp) (by simp)
      (.inr rfl)

end Header

/-! ## The two scans -/

/-- Two known groups of one list name one tenant. -/
def OneTenant (groups : List String) : Prop :=
  ∀ group ∈ groups, ∀ mapping, cognitoGroupMap.lookup group = some mapping →
    ∀ group' ∈ groups, ∀ mapping', cognitoGroupMap.lookup group' = some mapping' →
      mapping.tenant = mapping'.tenant

/-- The tenant, the role and the group of what was resolved. -/
def decision : Except PyError Identity → Option (String × String × String)
  | .ok identity => some (identity.tenant, identity.role, identity.group)
  | .error _ => none

section Scans

variable {groups : List String}

theorem resolveGroups_nonempty (resolved : Option (String × GroupMapping)) :
    resolveGroups resolved (groups.filter (· != "")) = resolveGroups resolved groups := by
  induction groups generalizing resolved with
  | nil => rfl
  | cons group groups ih =>
    by_cases hgroup : group = ""
    · subst hgroup
      exact ih resolved
    · rw [List.filter_cons_of_pos (by simpa using hgroup)]
      unfold resolveGroups
      simp only [ih]

/-- Once a group is chosen, the rest is read for other tenants only. -/
theorem resolveGroups_agreeing {first : String × GroupMapping}
    (h : ∀ group ∈ groups, ∀ mapping, cognitoGroupMap.lookup group = some mapping →
      first.2.tenant = mapping.tenant) :
    resolveGroups (some first) groups = .ok (some first) := by
  induction groups with
  | nil => rfl
  | cons group groups ih =>
    have hrest := ih fun g hg => h g (List.mem_cons_of_mem _ hg)
    unfold resolveGroups
    cases hlookup : cognitoGroupMap.lookup group with
    | none => exact hrest
    | some mapping =>
      have htenant := h group List.mem_cons_self mapping hlookup
      simp only [htenant, ne_eq, not_true_eq_false, if_false]
      exact hrest

theorem resolveGroups_conflict {first : String × GroupMapping} {group : String}
    {mapping : GroupMapping} (hmem : group ∈ groups)
    (hlookup : cognitoGroupMap.lookup group = some mapping)
    (htenant : first.2.tenant ≠ mapping.tenant) :
    ∃ e, resolveGroups (some first) groups = .error e := by
  induction groups with
  | nil => cases hmem
  | cons head groups ih =>
    unfold resolveGroups
    rcases List.mem_cons.mp hmem with rfl | hmem
    · simp only [hlookup, htenant, ne_eq, not_false_eq_true, if_true]
      exact ⟨_, rfl⟩
    · cases cognitoGroupMap.lookup head with
      | none => exact ih hmem
      | some other =>
        by_cases hother : first.2.tenant = other.tenant
        · simp only [hother, ne_eq, not_true_eq_false, if_false]
          rw [← hother] at *
          exact ih hmem
        · simp only [hother, ne_eq, not_false_eq_true, if_true]
          exact ⟨_, rfl⟩

theorem OneTenant.tail {group : String} (h : OneTenant (group :: groups)) : OneTenant groups :=
  fun g hg m hm g' hg' m' hm' =>
    h g (List.mem_cons_of_mem _ hg) m hm g' (List.mem_cons_of_mem _ hg') m' hm'

theorem OneTenant.cons_unknown {group : String} (hgroup : cognitoGroupMap.lookup group = none)
    (h : OneTenant groups) : OneTenant (group :: groups) := by
  have hknown : ∀ g ∈ group :: groups, ∀ mapping, cognitoGroupMap.lookup g = some mapping →
      g ∈ groups := by
    intro g hg mapping hlookup
    rcases List.mem_cons.mp hg with rfl | hg
    · rw [hgroup] at hlookup
      cases hlookup
    · exact hg
  intro g hg m hm g' hg' m' hm'
  exact h g (hknown g hg m hm) m hm g' (hknown g' hg' m' hm') m' hm'

theorem resolveGroups_oneTenant (h : OneTenant groups) :
    resolveGroups none groups = .ok (firstKnownGroup groups) := by
  induction groups with
  | nil => rfl
  | cons group groups ih =>
    unfold resolveGroups firstKnownGroup
    cases hlookup : cognitoGroupMap.lookup group with
    | none => exact ih h.tail
    | some mapping =>
      apply resolveGroups_agreeing
      intro g hg m hm
      exact h group List.mem_cons_self mapping hlookup g (List.mem_cons_of_mem _ hg) m hm

/-- Where two tenants are named, one scan stops before it sees the second. -/
theorem resolveGroups_twoTenants (h : ¬ OneTenant groups) :
    (∃ e, resolveGroups none groups = .error e) ∧ firstKnownGroup groups ≠ none := by
  induction groups with
  | nil => exact absurd (fun g hg => by cases hg) h
  | cons group groups ih =>
    unfold resolveGroups firstKnownGroup
    cases hlookup : cognitoGroupMap.lookup group with
    | none => exact ih fun hrest => h (hrest.cons_unknown hlookup)
    | some mapping =>
      refine ⟨?_, by simp⟩
      by_contra hnone
      have hagree : ∀ g ∈ group :: groups, ∀ m, cognitoGroupMap.lookup g = some m →
          mapping.tenant = m.tenant := by
        intro g hg m hm
        by_contra htenant
        rcases List.mem_cons.mp hg with rfl | hg
        · rw [hlookup] at hm
          cases hm
          exact htenant rfl
        · exact hnone (resolveGroups_conflict hg hm htenant)
      exact h fun g hg m hm g' hg' m' hm' =>
        (hagree g hg m hm).symm.trans (hagree g' hg' m' hm')

theorem resolveGroups_error {groups : List String} {resolved : Option (String × GroupMapping)}
    {e : PyError} (h : resolveGroups resolved groups = .error e) :
    ∃ message, e = .trustedHeaderAuthError message := by
  induction groups generalizing resolved with
  | nil => cases h
  | cons group groups ih =>
    unfold resolveGroups at h
    split at h
    · exact ih h
    · exact ih h
    · split at h
      · cases h
        exact ⟨_, rfl⟩
      · exact ih h

end Scans

/-! ## The two resolvers -/

/-- The identity the headers give for a group. -/
def headerIdentity (config : Config) (request : Request) (group : String)
    (mapping : GroupMapping) : Identity :=
  let sub := PyStr.strip (request.header config.apiGwSubHeaderName)
  let username := PyStr.strip (request.header config.apiGwUsernameHeaderName)
  let email := PyStr.strip (request.header config.apiGwEmailHeaderName)
  { tenant := mapping.tenant
    role := mapping.role
    group := group
    username := some (if username = "" then sub else username)
    email := if email = "" then none else some email
    sub := some sub
    userId := some sub
    profileComplete := true
    firstLogin := none
    passwordResetDone := false }

/-- Headers that carry the gateway's secret and a subject. -/
structure TrustedHeaders (config : Config) (request : Request) : Prop where
  secret : config.apiGwSharedSecret ≠ ""
  same : compareDigest (request.header config.apiGwSecretHeaderName) config.apiGwSharedSecret =
    .ok true
  sub : PyStr.strip (request.header config.apiGwSubHeaderName) ≠ ""

/-- The headers are refused, past the comparison with the declared error, or give an identity. -/
theorem resolveTrustedHeaderIdentity_cases (config : Config) (request : Request) :
    (∃ e, resolveTrustedHeaderIdentity config request = .error e ∧
      ((∃ message, e = .trustedHeaderAuthError message) ∨
        config.apiGwSharedSecret ≠ "" ∧
          compareDigest (request.header config.apiGwSecretHeaderName) config.apiGwSharedSecret =
            .error e) ∧
      (TrustedHeaders config request → ∀ known, resolveGroups none
        (forwardedGroups (PyStr.strip (request.header config.apiGwGroupsHeaderName))) ≠
          .ok (some known))) ∨
    ∃ group mapping, TrustedHeaders config request ∧
      resolveGroups none
        (forwardedGroups (PyStr.strip (request.header config.apiGwGroupsHeaderName))) =
          .ok (some (group, mapping)) ∧
      resolveTrustedHeaderIdentity config request =
        .ok (headerIdentity config request group mapping) := by
  unfold resolveTrustedHeaderIdentity headerIdentity
  generalize PyStr.strip (request.header config.apiGwGroupsHeaderName) = groupsRaw
  dsimp only
  by_cases hsecret : config.apiGwSharedSecret = ""
  · rw [if_pos hsecret]
    exact .inl ⟨_, rfl, .inl ⟨_, rfl⟩, fun h => absurd hsecret h.secret⟩
  rw [if_neg hsecret]
  cases hsame : compareDigest (request.header config.apiGwSecretHeaderName)
      config.apiGwSharedSecret with
  | error e =>
    refine .inl ⟨e, rfl, .inr ⟨hsecret, rfl⟩, fun h => ?_⟩
    cases hsame.symm.trans h.same
  | ok same =>
    cases same with
    | false =>
      refine .inl ⟨_, rfl, .inl ⟨_, rfl⟩, fun h => ?_⟩
      cases hsame.symm.trans h.same
    | true =>
      dsimp only [bind, Except.bind]
      simp only [Bool.not_true, Bool.false_eq_true, if_false]
      by_cases hmissing : (decide (PyStr.strip (request.header config.apiGwSubHeaderName) = "") ||
          decide (groupsRaw = "")) = true
      · rw [if_pos hmissing]
        refine .inl ⟨_, rfl, .inl ⟨_, rfl⟩, fun h => ?_⟩
        have hempty : groupsRaw = "" := by simpa [h.sub] using hmissing
        subst hempty
        rintro known ⟨⟩
      rw [if_neg hmissing]
      by_cases hnone : forwardedGroups groupsRaw = []
      · rw [if_pos hnone, hnone]
        refine .inl ⟨_, rfl, .inl ⟨_, rfl⟩, fun _ => ?_⟩
        rintro known ⟨⟩
      rw [if_neg hnone]
      cases hgroups : resolveGroups none (forwardedGroups groupsRaw) with
      | error e =>
        refine .inl ⟨e, rfl, .inl (resolveGroups_error hgroups), fun _ => ?_⟩
        rintro known ⟨⟩
      | ok resolved =>
        cases resolved with
        | none =>
          refine .inl ⟨_, rfl, .inl ⟨_, rfl⟩, fun _ => ?_⟩
          rintro known ⟨⟩
        | some known =>
          have hsub : PyStr.strip (request.header config.apiGwSubHeaderName) ≠ "" := by
            intro hsub
            simp [hsub] at hmissing
          exact .inr ⟨known.1, known.2, ⟨hsecret, hsame, hsub⟩, rfl, rfl⟩

/-- Past the secret and the subject, the groups decide. -/
theorem resolveTrustedHeaderIdentity_eq_ok {config : Config} {request : Request}
    (h : TrustedHeaders config request) {identity : Identity} :
    resolveTrustedHeaderIdentity config request = .ok identity ↔
      ∃ group mapping, resolveGroups none
          (forwardedGroups (PyStr.strip (request.header config.apiGwGroupsHeaderName))) =
            .ok (some (group, mapping)) ∧
        identity = headerIdentity config request group mapping := by
  rcases resolveTrustedHeaderIdentity_cases config request with
    ⟨e, hrun, -, hnone⟩ | ⟨group, mapping, -, hgroups, hrun⟩
  · rw [hrun]
    constructor
    · rintro ⟨⟩
    · rintro ⟨group, mapping, hgroups, -⟩
      exact absurd hgroups (hnone h _)
  · rw [hrun]
    constructor
    · rintro ⟨⟩
      exact ⟨group, mapping, hgroups, rfl⟩
    · rintro ⟨group', mapping', hgroups', rfl⟩
      cases hgroups.symm.trans hgroups'
      rfl

section Decisions

variable {config : Config} {request : Request} {claims : Claims} {names : List String}

def decided (known : String × GroupMapping) : String × String × String :=
  (known.2.tenant, known.2.role, known.1)

theorem decision_claims (claimed : claims.groups = names.map Json.str) :
    decision (resolveTenantAndRole claims) = (firstKnownGroup names).map decided := by
  unfold resolveTenantAndRole
  rw [claimed, firstClaimedGroup_names]
  cases firstKnownGroup names <;> rfl

theorem decision_headers (h : TrustedHeaders config request) {groups : List String}
    (hgroups : forwardedGroups (PyStr.strip (request.header config.apiGwGroupsHeaderName)) =
      groups.filter (· != "")) :
    decision (resolveTrustedHeaderIdentity config request) =
      (resolveGroups none groups).toOption.join.map decided := by
  have hiff := fun identity => @resolveTrustedHeaderIdentity_eq_ok config request h identity
  rw [hgroups, resolveGroups_nonempty] at hiff
  cases hresolved : resolveTrustedHeaderIdentity config request with
  | ok identity =>
    obtain ⟨group, mapping, hscan, rfl⟩ := (hiff identity).mp hresolved
    rw [hscan]
    rfl
  | error e =>
    rcases hscan : resolveGroups none groups with e' | _ | ⟨group, mapping⟩
    · rfl
    · rfl
    · rw [(hiff _).mpr ⟨group, mapping, hscan, rfl⟩] at hresolved
      cases hresolved

theorem decision_ne_of_twoTenants (h : TrustedHeaders config request)
    (claimed : claims.groups = names.map Json.str)
    (hgroups : forwardedGroups (PyStr.strip (request.header config.apiGwGroupsHeaderName)) =
      names.filter (· != "")) (htwo : ¬ OneTenant names) :
    decision (resolveTenantAndRole claims) ≠
      decision (resolveTrustedHeaderIdentity config request) := by
  obtain ⟨⟨e, hscan⟩, hknown⟩ := resolveGroups_twoTenants htwo
  obtain ⟨known, hfirst⟩ := Option.ne_none_iff_exists'.mp hknown
  rw [decision_claims claimed, decision_headers h hgroups, hscan, hfirst]
  intro hsame
  cases hsame

end Decisions

/-- Claims and trusted headers that list the same groups are given the same tenant, role and
group, or are both refused, exactly when the known groups are of one tenant. -/
theorem decision_eq_iff_oneTenant (config : Config) (request : Request) (claims : Claims)
    (names : List String) (form : ListForm) (trusted : TrustedHeaders config request)
    (claimed : claims.groups = names.map Json.str) (plain : ∀ name ∈ names, PlainName name)
    (same : request.header config.apiGwGroupsHeaderName = form.write names) :
    decision (resolveTenantAndRole claims) =
        decision (resolveTrustedHeaderIdentity config request) ↔
      OneTenant names := by
  have hread := forwardedGroups_write plain form
  rw [← same] at hread
  constructor
  · intro hsame
    by_contra htwo
    exact decision_ne_of_twoTenants trusted claimed hread htwo hsame
  · intro hone
    rw [decision_claims claimed, decision_headers trusted hread, resolveGroups_oneTenant hone]
    rfl

/-! ## Groups of two tenants -/

/-- A deployment behind the gateway. -/
def gatewayConfig : Config := { sampleConfig with
  apiGatewayTrustedHeadersEnabled := true
  apiGwSharedSecret := "s3cret" }

/-- What the gateway forwards for a member of `groups`. -/
def gatewayRequest (form : ListForm) (groups : List String) : Request where
  method := "GET"
  path := "/users/details"
  headers name :=
    if name = "X-Api-Gateway-Secret" then some "s3cret"
    else if name = "X-Amzn-Cognito-Sub" then some "sub-7"
    else if name = "X-Amzn-Cognito-Username" then some "grace"
    else if name = "X-Amzn-Cognito-Groups" then some (form.write groups)
    else none
  cookies _ := none
  args _ := none
  form _ := none

/-- The claims of a member of `groups`. -/
def memberClaims (groups : List String) : Claims where
  groups := groups.map Json.str
  cognitoUsername := some "grace"
  username := none
  email := none
  sub := some "sub-7"
  tokenUse := some "access"
  exp := some 1000

theorem gatewayRequest_trusted (form : ListForm) (groups : List String) :
    TrustedHeaders gatewayConfig (gatewayRequest form groups) := by
  refine ⟨by decide, ?_, ?_⟩
  · show compareDigest "s3cret" "s3cret" = _
    decide
  · show PyStr.strip "sub-7" ≠ ""
    decide

theorem gatewayRequest_groups (form : ListForm) (groups : List String) :
    (gatewayRequest form groups).header gatewayConfig.apiGwGroupsHeaderName =
      form.write groups := rfl

theorem one_tenant_agreed :
    decision (resolveTenantAndRole (memberClaims ["staff only", "TenantB_user"])) =
      decision (resolveTrustedHeaderIdentity gatewayConfig
        (gatewayRequest .json ["staff only", "TenantB_user"])) := by
  refine (decision_eq_iff_oneTenant gatewayConfig _ _ _ .json
    (gatewayRequest_trusted .json _) rfl (by decide) (gatewayRequest_groups _ _)).mpr ?_
  have htenant : ∀ group ∈ ["staff only", "TenantB_user"], ∀ mapping,
      cognitoGroupMap.lookup group = some mapping → mapping.tenant = "TenantB" := by
    intro group hgroup mapping hlookup
    rcases List.mem_pair.mp hgroup with rfl | rfl
    · cases hlookup
    · cases hlookup
      rfl
  intro group hgroup mapping hlookup group' hgroup' mapping' hlookup'
  exact (htenant group hgroup mapping hlookup).trans
    (htenant group' hgroup' mapping' hlookup').symm

/-- The claims are taken for TenantA, the headers are refused. -/
theorem two_tenants_disputed : ¬ ∀ (config : Config) (request : Request) (claims : Claims)
    (names : List String) (form : ListForm), TrustedHeaders config request →
      claims.groups = names.map Json.str → (∀ name ∈ names, PlainName name) →
      request.header config.apiGwGroupsHeaderName = form.write names →
      decision (resolveTenantAndRole claims) =
        decision (resolveTrustedHeaderIdentity config request) := by
  intro h
  have hplain : ∀ name ∈ ["TenantA_user", "TenantB_admin"], PlainName name := by decide
  have hread := forwardedGroups_write hplain .bare
  rw [← gatewayRequest_groups] at hread
  refine @decision_ne_of_twoTenants gatewayConfig _
    (memberClaims ["TenantA_user", "TenantB_admin"]) _ (gatewayRequest_trusted _ _) rfl hread ?_
    (h _ _ _ _ .bare (gatewayRequest_trusted _ _) rfl hplain (gatewayRequest_groups _ _))
  intro hone
  have htenant := hone "TenantA_user" (by decide) ⟨"TenantA", "user"⟩ rfl "TenantB_admin"
    (by decide) ⟨"TenantB", "admin"⟩ rfl
  revert htenant
  decide

/-! ## The order of the groups -/

/-- The tenant and the role of what was resolved. -/
def scope : Except PyError Identity → Option (String × String)
  | .ok identity => some (identity.tenant, identity.role)
  | .error _ => none

/-- Two known groups of one list map to the same tenant and role. -/
def OneMapping (groups : List Json) : Prop :=
  ∀ group, Json.str group ∈ groups → ∀ mapping, cognitoGroupMap.lookup group = some mapping →
    ∀ group', Json.str group' ∈ groups → ∀ mapping',
      cognitoGroupMap.lookup group' = some mapping' → mapping = mapping'

/-- The map knows none of the groups. -/
def NoneKnown (groups : List Json) : Prop :=
  ∀ group, Json.str group ∈ groups → cognitoGroupMap.lookup group = none

section Order

theorem firstKnownGroup_eq_none {names : List String} :
    firstKnownGroup names = none ↔ ∀ name ∈ names, cognitoGroupMap.lookup name = none := by
  induction names with
  | nil => simp [firstKnownGroup]
  | cons name names ih =>
    unfold firstKnownGroup
    cases hlookup : cognitoGroupMap.lookup name with
    | none =>
      show firstKnownGroup names = none ↔ _
      rw [ih, List.forall_mem_cons]
      exact ⟨fun h => ⟨hlookup, h⟩, And.right⟩
    | some mapping =>
      constructor
      · intro h
        cases h
      · intro h
        rw [h name List.mem_cons_self] at hlookup
        cases hlookup

variable {groups : List Json} {group : String} {mapping : GroupMapping}

theorem scope_claims (claims : Claims) : scope (resolveTenantAndRole claims) =
    (firstClaimedGroup claims.groups).toOption.join.map
      fun known => (known.2.tenant, known.2.role) := by
  unfold resolveTenantAndRole
  rcases firstClaimedGroup claims.groups with e | _ | known <;> rfl

/-- Claims without a known group are refused, whatever else stands among them. -/
theorem NoneKnown.refused (h : NoneKnown groups) :
    (firstClaimedGroup groups).toOption.join = none := by
  rcases hfirst : firstClaimedGroup groups with e | _ | ⟨group, mapping⟩
  · rfl
  · rfl
  · obtain ⟨hmem, hlookup⟩ := mem_of_firstClaimedGroup hfirst
    rw [h group hmem] at hlookup
    cases hlookup

theorem NoneKnown.perm {groups' : List Json} (h : NoneKnown groups) (hperm : groups.Perm groups') :
    NoneKnown groups' :=
  fun group hmem => h group (hperm.mem_iff.mpr hmem)

/-- Where nothing raises, a known group is found. -/
theorem firstClaimedGroup_finds (hashable : ∀ group ∈ groups, group.isHashable = true)
    (hmem : Json.str group ∈ groups) (hlookup : cognitoGroupMap.lookup group = some mapping) :
    ∃ known, firstClaimedGroup groups = .ok (some known) := by
  induction groups with
  | nil => cases hmem
  | cons head groups ih =>
    obtain ⟨hhead, hrest⟩ := List.forall_mem_cons.mp hashable
    by_cases hname : ∃ name, head = .str name
    · obtain ⟨name, rfl⟩ := hname
      rw [firstClaimedGroup]
      cases hfound : cognitoGroupMap.lookup name with
      | some found => exact ⟨_, rfl⟩
      | none =>
        rcases List.mem_cons.mp hmem with hsame | hmem
        · rw [Json.str.inj hsame, hfound] at hlookup
          cases hlookup
        · exact ih hrest hmem
    · rw [firstClaimedGroup_cons groups fun name h => hname ⟨name, h⟩, if_pos hhead]
      rcases List.mem_cons.mp hmem with hsame | hmem
      · exact absurd ⟨group, hsame.symm⟩ hname
      · exact ih hrest hmem

/-- A known group that is brought to the front decides. -/
theorem firstClaimedGroup_front (hmem : Json.str group ∈ groups)
    (hlookup : cognitoGroupMap.lookup group = some mapping) :
    ∃ rest, groups.Perm rest ∧ firstClaimedGroup rest = .ok (some (group, mapping)) := by
  obtain ⟨before, after, rfl⟩ := List.append_of_mem hmem
  refine ⟨Json.str group :: (before ++ after), List.perm_middle, ?_⟩
  unfold firstClaimedGroup
  rw [hlookup]

/-- A list or an object that is brought to the front raises. -/
theorem firstClaimedGroup_raises {value : Json} (hmem : value ∈ groups)
    (hvalue : value.isHashable = false) :
    ∃ rest, groups.Perm rest ∧ firstClaimedGroup rest = .error .typeError := by
  obtain ⟨before, after, rfl⟩ := List.append_of_mem hmem
  refine ⟨value :: (before ++ after), List.perm_middle, ?_⟩
  cases value with
  | arr items => rfl
  | obj fields => rfl
  | _ => cases hvalue

theorem OneMapping.perm {groups' : List Json} (h : OneMapping groups)
    (hashable : ∀ group ∈ groups, group.isHashable = true) (hperm : groups.Perm groups')
    (hmem : Json.str group ∈ groups) (hlookup : cognitoGroupMap.lookup group = some mapping) :
    (firstClaimedGroup groups').toOption.join.map Prod.snd = some mapping := by
  have hashable' : ∀ group ∈ groups', group.isHashable = true :=
    fun group hgroup => hashable group (hperm.mem_iff.mpr hgroup)
  obtain ⟨⟨group', mapping'⟩, hfirst⟩ :=
    firstClaimedGroup_finds hashable' (hperm.mem_iff.mp hmem) hlookup
  obtain ⟨hmem', hlookup'⟩ := mem_of_firstClaimedGroup hfirst
  rw [hfirst, h group hmem mapping hlookup group' (hperm.mem_iff.mpr hmem') mapping' hlookup']
  rfl

end Order

/-- The claims are given the same tenant and role in every order of their groups, or are always
refused, exactly when their known groups map to one tenant and role, and no list or object stands
beside a known group. -/
theorem scope_perm_iff_oneMapping (claims : Claims) :
    (∀ groups, claims.groups.Perm groups →
      scope (resolveTenantAndRole { claims with groups := groups }) =
        scope (resolveTenantAndRole claims)) ↔
      OneMapping claims.groups ∧
        (NoneKnown claims.groups ∨ ∀ group ∈ claims.groups, group.isHashable = true) := by
  constructor
  · intro horder
    have hsame : ∀ rest, claims.groups.Perm rest → ∀ rest', claims.groups.Perm rest' →
        (firstClaimedGroup rest).toOption.join.map (fun known => (known.2.tenant, known.2.role)) =
        (firstClaimedGroup rest').toOption.join.map
          (fun known => (known.2.tenant, known.2.role)) := by
      intro rest hrest rest' hrest'
      have h := (horder rest hrest).trans (horder rest' hrest').symm
      rwa [scope_claims, scope_claims] at h
    refine ⟨fun group hmem mapping hlookup group' hmem' mapping' hlookup' => ?_, ?_⟩
    · -- each of the two groups is brought to the front in turn
      obtain ⟨rest, hperm, hfirst⟩ := firstClaimedGroup_front hmem hlookup
      obtain ⟨rest', hperm', hfirst'⟩ := firstClaimedGroup_front hmem' hlookup'
      have h := hsame rest hperm rest' hperm'
      rw [hfirst, hfirst'] at h
      cases mapping
      cases mapping'
      cases h
      rfl
    · by_contra hneither
      obtain ⟨hknown, hunhashable⟩ := not_or.mp hneither
      simp only [NoneKnown, not_forall] at hknown hunhashable
      obtain ⟨group, hmem, hlookup⟩ := hknown
      obtain ⟨mapping, hlookup⟩ := Option.ne_none_iff_exists'.mp hlookup
      obtain ⟨value, hvalue, hraises⟩ := hunhashable
      obtain ⟨rest, hperm, hfirst⟩ := firstClaimedGroup_front hmem hlookup
      obtain ⟨rest', hperm', hfirst'⟩ := firstClaimedGroup_raises hvalue (by simpa using hraises)
      have h := hsame rest hperm rest' hperm'
      rw [hfirst, hfirst'] at h
      cases h
  · intro h groups hperm
    obtain ⟨hone, hrest⟩ := h
    rw [scope_claims, scope_claims]
    by_cases hnone : NoneKnown claims.groups
    · rw [hnone.refused, (hnone.perm hperm).refused]
    have hashable := hrest.resolve_left hnone
    simp only [NoneKnown, not_forall] at hnone
    obtain ⟨group, hmem, hlookup⟩ := hnone
    obtain ⟨mapping, hlookup⟩ := Option.ne_none_iff_exists'.mp hlookup
    have hsame := (hone.perm hashable hperm hmem hlookup).trans
      (hone.perm hashable (.refl _) hmem hlookup).symm
    have h := congrArg (Option.map fun mapping : GroupMapping => (mapping.tenant, mapping.role))
      hsame
    rwa [Option.map_map, Option.map_map] at h

/-- The first of two groups decides which tenant the member administers. -/
theorem order_decides : ¬ ∀ (claims : Claims) (groups : List Json), claims.groups.Perm groups →
    scope (resolveTenantAndRole { claims with groups := groups }) =
      scope (resolveTenantAndRole claims) := by
  intro h
  have hsame := h (memberClaims ["TenantA_admin", "TenantB_user"])
    [.str "TenantB_user", .str "TenantA_admin"] (List.Perm.swap _ _ _)
  revert hsame
  decide

end TenantSaas
