import TenantSaas.Profile.Saves

/-!
# The phone on the profile page

A phone is saved, the page is opened, and the form is posted as it was shown.  Saving encrypts
the phone, and the page decrypts what it takes for encrypted.
-/

namespace TenantSaas

/-- What the inputs of the profile form show of a record (`user_profile.html:38-53`). -/
def profileInput (record : Option UserRow) (name : String) : Option String :=
  if name = "name" then some ((record.map UserRow.username).getD "")
  else if name = "email" then some ((record.map UserRow.email).getD "")
  else if name = "phone" then some ((record.bind UserRow.phone).getD "")
  else if name = "department" then some ((record.bind UserRow.department).getD "")
  else none

/-- A form that is posted as it was shown. -/
def PostsBack (record : Option UserRow) (request : Request) : Prop :=
  ∀ name ∈ ["name", "email", "phone", "department"], request.form name = profileInput record name

/-- One visit of the profile page: the phone it shows, and the state once the form is posted. -/
structure Cycle where
  shown : String
  after : AppState

/-- The state the cycles end in. -/
def lastState (first : AppState) : List Cycle → AppState
  | [] => first
  | cycle :: _ => cycle.after

section Definitions

variable (config : Config) (world : World) (tenant userId p : String)

/-- A request of the user whose row is stored under the user id. -/
def Visits (entered : Identity) (s : AppState) : Prop :=
  entered.tenant = tenant ∧ Users.resolveUserId (s.session.identity.getD entered) = .ok userId

/-- The page is opened and shows a record. -/
def Opens (entered : Identity) (record : Option UserRow) (s t : AppState) : Prop :=
  Visits tenant userId entered s ∧ ∃ identity completion flashes,
    world.run (Users.userDetailsPage config entered) s =
      (.ok (.page 200 (.userProfile identity record completion) flashes), t)

/-- The phone is saved, and then the cycles, the last one first. -/
inductive PhoneRun : AppState → List Cycle → Prop
  | stored {entered : Identity} {request : Request} {s t : AppState} {response : Response}
      (visits : Visits tenant userId entered s)
      (phone : PyStr.strip (request.field "phone") = p)
      (served : world.run (Users.userDetailsUpdate config request entered) s = (.ok response, t))
      (saved : response.saved = true) : PhoneRun t []
  | cycle {first : AppState} {trace : List Cycle} {entered poster : Identity}
      {record : Option UserRow} {u t : AppState} {request : Request}
      {response : Except PyError Response} (run : PhoneRun first trace)
      (opens : Opens config world tenant userId entered record (lastState first trace) u)
      (visits : Visits tenant userId poster u) (form : PostsBack record request)
      (served : world.run (Users.userDetailsUpdate config request poster) u = (response, t)) :
      PhoneRun first (⟨(record.bind UserRow.phone).getD "", t⟩ :: trace)

/-- What is stored decrypts to the phone, once, whenever KMS can be called. -/
def Recoverable (s : AppState) : Prop :=
  ∃ row stored, storedRow config world tenant userId s = some row ∧ row.phone = some stored ∧
    ∀ u, (∀ v blob, world.failure v (.kmsDecrypt blob) = none) →
      (world.run (decryptField stored) u).1 = .ok p

/-- Every page shows the phone, and it can be recovered all along. -/
def Survives (first : AppState) (trace : List Cycle) : Prop :=
  Recoverable config world tenant userId p first ∧
    ∀ cycle ∈ trace, cycle.shown = p ∧ Recoverable config world tenant userId p cycle.after

/-- There is no key to encrypt with. -/
def Config.keyless : Prop := config.demoMode = true ∨ config.kmsKeyId = ""

/-- The formats of a stored phone. -/
inductive PhoneText : String → String → Prop
  | empty : PhoneText "" ""
  | marked {p : String} (nonempty : p ≠ "") (keyless : config.keyless) :
      PhoneText p (demoPrefix ++ b64encode (utf8Encode p))
  | sealed {p : String} (nonempty : p ≠ "") (key : ¬ config.keyless) (n : Nat) :
      PhoneText p (b64encode (world.kms.encrypt n (utf8Encode p)))

/-- The user's row has the phone. -/
def HasPhone (p stored : String) (s : AppState) : Prop :=
  PhoneText config world p stored ∧
    ∃ row, storedRow config world tenant userId s = some row ∧ row.phone = some stored

end Definitions

/-! ## The formats -/

section Formats

variable {config : Config} {world : World} {p stored : String} {s t : AppState}

theorem colon_notMem_encode (bytes : List UInt8) : ':' ∉ Base64.encode bytes := by
  have hdigits : ∀ n < 64, ':' ≠ Base64.digit n := by decide
  intro h
  rcases Base64.mem_encode h with hpad | ⟨n, hn, hdigit⟩
  · exact absurd hpad (by decide)
  · exact hdigits n hn hdigit

/-- Base64 never starts like a marked text. -/
theorem startswith_b64encode {mark : String} (hmark : ':' ∈ mark.toList) (bytes : List UInt8) :
    PyStr.startswith (b64encode bytes) mark = false := by
  rw [Bool.eq_false_iff]
  intro h
  unfold PyStr.startswith b64encode at h
  rw [String.toList_ofList, List.isPrefixOf_iff_prefix] at h
  exact colon_notMem_encode bytes (h.subset hmark)

theorem encode_ne_nil {bytes : List UInt8} (h : bytes ≠ []) : Base64.encode bytes ≠ [] := by
  intro hnil
  have hlength := Base64.encode_length bytes
  have hpos := List.length_pos_iff.mpr h
  rw [hnil] at hlength
  simp only [List.length_nil] at hlength
  omega

theorem b64encode_ne_empty {bytes : List UInt8} (h : bytes ≠ []) : b64encode bytes ≠ "" := by
  intro hempty
  have hlist := congrArg String.toList hempty
  rw [b64encode, String.toList_ofList] at hlist
  exact encode_ne_nil h hlist

theorem utf8Encode_length (text : String) :
    (utf8Encode text).length = (text.toList.map Char.utf8Size).sum := by
  have hbytes : text.toByteArray = text.toList.utf8Encode := by
    rw [← String.toByteArray_ofList, String.ofList_toList]
  unfold utf8Encode
  rw [show text.toUTF8 = text.toByteArray from rfl, hbytes, List.utf8Encode]
  simp [List.length_flatMap]

/-- Every character takes a byte. -/
theorem length_le_utf8Encode (text : String) : text.toList.length ≤ (utf8Encode text).length := by
  rw [utf8Encode_length]
  have hsum := List.length_le_sum_of_one_le (text.toList.map Char.utf8Size) fun n hn => by
    obtain ⟨c, -, rfl⟩ := List.mem_map.mp hn
    exact c.utf8Size_pos
  simpa using hsum

theorem utf8Encode_ne_nil (h : p ≠ "") : utf8Encode p ≠ [] := by
  intro hnil
  have hlength := length_le_utf8Encode p
  rw [hnil, List.length_nil, Nat.le_zero, List.length_eq_zero_iff, String.toList_eq_nil_iff]
    at hlength
  exact h hlength

/-- What `encrypt_field` returns is in one of the formats. -/
theorem encryptField_ok (h : world.run (encryptField config p) s = (.ok stored, t)) :
    PhoneText config world p stored := by
  unfold encryptField at h
  by_cases hempty : p = ""
  · rw [if_pos hempty] at h
    cases h
    rw [hempty]
    exact .empty
  rw [if_neg hempty] at h
  by_cases hkey : (config.demoMode || config.kmsKeyId == "") = true
  · rw [if_pos hkey] at h
    cases h
    exact .marked hempty (by simpa [Config.keyless] using hkey)
  · rw [if_neg hkey] at h
    obtain ⟨blob, u, hencrypt, hret⟩ := World.run_bind_eq_ok.mp h
    cases hret
    rw [World.run_perform] at hencrypt
    obtain ⟨-, hanswer, -⟩ := World.answer_of_exec hencrypt
    cases hanswer
    exact .sealed hempty (by simpa [Config.keyless] using hkey) s.tick

theorem run_decrypt_marked (p : String) (s : AppState) :
    world.run (decryptField (demoPrefix ++ b64encode (utf8Encode p))) s = (.ok p, s) := by
  unfold decryptField
  have hne : demoPrefix ++ b64encode (utf8Encode p) ≠ "" := by
    intro h
    have hlist := congrArg String.toList h
    rw [String.toList_append] at hlist
    cases hlist
  rw [if_neg hne, if_pos (PyStr.startswith_append _ _), PyStr.drop_append, b64decode_b64encode]
  show world.run (Prog.ofExcept (utf8Decode (utf8Encode p))) s = _
  rw [utf8Decode_utf8Encode]
  rfl

/-- A ciphertext decrypts under the key it was made with. -/
theorem run_decrypt_sealed {n : Nat} (hblob : world.kms.encrypt n (utf8Encode p) ≠ [])
    (hkms : ∀ blob, world.failure s (.kmsDecrypt blob) = none) :
    world.run (decryptField (b64encode (world.kms.encrypt n (utf8Encode p)))) s =
      (.ok p, { s with tick := s.tick + 1 }) := by
  unfold decryptField
  rw [if_neg (b64encode_ne_empty hblob), startswith_b64encode (by decide), b64decode_b64encode]
  show world.run (do
    let plaintext ← perform (.kmsDecrypt (world.kms.encrypt n (utf8Encode p)))
    Prog.ofExcept (utf8Decode plaintext)) s = _
  have hanswer : world.run (perform (.kmsDecrypt (world.kms.encrypt n (utf8Encode p)))) s =
      (.ok (utf8Encode p), { s with tick := s.tick + 1 }) := by
    rw [World.run_perform, World.exec_of_answer (hkms _)]
    simp only [World.answer, world.kms.decrypt_encrypt]
  rw [World.run_bind_ok hanswer, utf8Decode_utf8Encode]
  rfl

/-- A ciphertext is no shorter than its plaintext. -/
def Kms.Expands (kms : Kms) : Prop :=
  ∀ n plaintext, plaintext.length ≤ (kms.encrypt n plaintext).length

theorem encrypt_ne_nil (expands : world.kms.Expands) (nonempty : p ≠ "") (n : Nat) :
    world.kms.encrypt n (utf8Encode p) ≠ [] := by
  have hlength := expands n (utf8Encode p)
  have hpos := List.length_pos_iff.mpr (utf8Encode_ne_nil nonempty)
  exact List.length_pos_iff.mp (by omega)

/-- Each format decrypts to the phone. -/
theorem PhoneText.decrypts (h : PhoneText config world p stored) (expands : world.kms.Expands)
    (hkms : ∀ v blob, world.failure v (.kmsDecrypt blob) = none) (s : AppState) :
    (world.run (decryptField stored) s).1 = .ok p := by
  cases h with
  | empty => rfl
  | marked _ _ => rw [run_decrypt_marked]
  | sealed nonempty _ n => rw [run_decrypt_sealed (encrypt_ne_nil expands nonempty n) (hkms s)]

/-- The text of a ciphertext is longer than the phone. -/
theorem sealed_ne (expands : world.kms.Expands) (nonempty : p ≠ "") (n : Nat) :
    b64encode (world.kms.encrypt n (utf8Encode p)) ≠ p := by
  intro h
  have hlonger := expands n (utf8Encode p)
  have hpos := List.length_pos_iff.mpr (utf8Encode_ne_nil nonempty)
  have hencoded := Base64.encode_length (world.kms.encrypt n (utf8Encode p))
  have htext := length_le_utf8Encode p
  rw [← h, b64encode, String.toList_ofList] at htext
  rw [← b64encode, h] at htext
  omega

/-! ## The page -/

theorem looksEncrypted_marked (text : String) :
    Users.looksEncrypted (demoPrefix ++ text) = true := by
  unfold Users.looksEncrypted
  rw [PyStr.startswith_append]
  rfl

theorem looksEncrypted_sealed (bytes : List UInt8) :
    Users.looksEncrypted (b64encode bytes) = false := by
  unfold Users.looksEncrypted
  rw [startswith_b64encode (by decide), startswith_b64encode (by decide)]
  rfl

/-- The page shows the phone unless there is a key to encrypt it with. -/
theorem PhoneText.shown_iff (h : PhoneText config world p stored) (expands : world.kms.Expands)
    {row : UserRow} {record : Option UserRow} (hphone : row.phone = some stored)
    (hshown : world.run (Users.shownRecord (some row)) s = (.ok record, t)) :
    (record.bind UserRow.phone).getD "" = p ↔ config.keyless ∨ p = "" := by
  unfold Users.shownRecord at hshown
  simp only [hphone, Option.getD_some] at hshown
  cases h with
  | empty =>
    cases hshown
    rw [Option.bind_some, hphone]
    exact ⟨fun _ => .inr rfl, fun _ => rfl⟩
  | marked nonempty keyless =>
    rw [looksEncrypted_marked, if_pos rfl, World.run_bind_ok (run_decrypt_marked p s)] at hshown
    cases hshown
    exact ⟨fun _ => .inl keyless, fun _ => rfl⟩
  | sealed nonempty key n =>
    rw [looksEncrypted_sealed] at hshown
    cases hshown
    rw [Option.bind_some, hphone]
    constructor
    · exact fun hsame => absurd hsame (sealed_ne expands nonempty n)
    · intro h'
      rcases h' with keyless | hempty
      · exact absurd keyless key
      · exact absurd hempty nonempty

end Formats

/-! ## The requests -/

section Requests

variable {config : Config} {world : World} {tenant userId p stored : String}
  {entered : Identity} {request : Request} {record : Option UserRow} {s t first : AppState}
  {trace : List Cycle}

theorem decryptField_keepsRows (ciphertext : String) :
    (decryptField ciphertext).Calls fun op => op.keepsRows = true := by
  unfold decryptField
  split
  · trivial
  split
  · generalize PyStr.drop ciphertext demoPrefix.length = encoded
    exact Prog.Calls.ofExcept_bind fun blob _ => Prog.Calls.ofExcept _
  · refine Prog.Calls.ofExcept_bind fun blob _ => ?_
    exact Prog.Calls.bind (perform_calls (by rfl)) fun plain => Prog.Calls.ofExcept _

theorem shownRecord_keepsRows (record : Option UserRow) :
    (Users.shownRecord record).Calls fun op => op.keepsRows = true := by
  cases record with
  | none => trivial
  | some row =>
    unfold Users.shownRecord
    dsimp only
    split
    · exact Prog.Calls.bind (decryptField_keepsRows _) fun _ => trivial
    · trivial

theorem userDetailsPage_keepsRows :
    (Users.userDetailsPage config entered).Calls fun op => op.keepsRows = true := by
  refine Prog.Calls.bind (Prog.Calls.bind (perform_calls (by rfl)) fun _ => trivial)
    fun identity => ?_
  refine Prog.Calls.ofExcept_bind fun userId _ => ?_
  refine Prog.Calls.bind (getUserById_keepsRows userId) fun row => ?_
  refine Prog.Calls.bind (shownRecord_keepsRows row) fun record => ?_
  exact render_calls (by rfl) (fun _ => by rfl) _

/-- A page that opens shows the record of the user's row, and leaves the rows. -/
theorem Opens.shows (h : Opens config world tenant userId entered record s t) :
    (∃ u v, world.run (Users.shownRecord (storedRow config world tenant userId s)) u =
      (.ok record, v)) ∧ keyedRows config tenant t = keyedRows config tenant s := by
  obtain ⟨⟨rfl, hid⟩, identity, completion, flashes, hopen⟩ := h
  have hrows := @run_keyedRows config world entered.tenant _ _
    (@userDetailsPage_keepsRows config entered) s
  rw [hopen] at hrows
  refine ⟨?_, hrows⟩
  unfold Users.userDetailsPage at hopen
  rw [World.run_bind_ok (run_getCurrentIdentity entered s), hid] at hopen
  obtain ⟨key, _, hresolved, hopen⟩ := World.run_bind_eq_ok.mp hopen
  cases hresolved
  obtain ⟨row, u, hread, hrest⟩ := World.run_bind_eq_ok.mp hopen
  obtain ⟨shown, v, hshown, hrender⟩ := World.run_bind_eq_ok.mp hrest
  have hrow := getUserById_eq (resolveUserId_eq_ok.mp hid).2 hread
  cases hrender
  exact ⟨u, v, by rw [hrow] at hshown; exact hshown⟩

theorem HasPhone.congr (h : HasPhone config world tenant userId p stored s)
    (hrows : keyedRows config tenant t = keyedRows config tenant s) :
    HasPhone config world tenant userId p stored t := by
  obtain ⟨htext, hrow⟩ := h
  refine ⟨htext, ?_⟩
  rw [storedRow_congr hrows]
  exact hrow

theorem HasPhone.recoverable (h : HasPhone config world tenant userId p stored s)
    (expands : world.kms.Expands) : Recoverable config world tenant userId p s := by
  obtain ⟨htext, row, hrow, hphone⟩ := h
  exact ⟨row, stored, hrow, hphone, fun u hkms => htext.decrypts expands hkms u⟩

/-- The page of a user with the phone. -/
theorem HasPhone.shown_iff (h : HasPhone config world tenant userId p stored s)
    (expands : world.kms.Expands) (opens : Opens config world tenant userId entered record s t) :
    (record.bind UserRow.phone).getD "" = p ↔ config.keyless ∨ p = "" := by
  obtain ⟨htext, row, hrow, hphone⟩ := h
  obtain ⟨⟨u, v, hshown⟩, -⟩ := opens.shows
  rw [hrow] at hshown
  exact htext.shown_iff expands hphone hshown

theorem setAll_fields_phone (form : Users.ProfileForm) (phone : String) (row : UserRow) :
    (row.setAll (editable (form.fields phone))).phone = some phone := rfl

/-- A form that is posted saves its phone, or leaves the rows. -/
theorem posted_phone {r : Except PyError Response} (visits : Visits tenant userId entered s)
    (served : world.run (Users.userDetailsUpdate config request entered) s = (r, t)) :
    (∃ stored, HasPhone config world tenant userId (PyStr.strip (request.field "phone"))
      stored t) ∨
    (∀ response, r = .ok response → response.saved = false) ∧
      keyedRows config tenant t = keyedRows config tenant s := by
  obtain ⟨rfl, hid⟩ := visits
  rcases run_userDetailsUpdate served with ⟨response, -, -, key, phone, u, v, saved⟩ |
    ⟨hnot, hrows⟩
  · obtain rfl : key = userId := Except.ok.inj (saved.resolved.symm.trans hid)
    obtain ⟨session, tick, rfl, -⟩ := saved.after
    obtain ⟨old, hrow⟩ := storedRow_of_upsert saved.put
    exact .inl ⟨phone, encryptField_ok saved.encrypted, _, hrow, setAll_fields_phone _ _ _⟩
  · exact .inr ⟨hnot, hrows entered.tenant⟩

/-- The phone is in the user's row once it is saved. -/
theorem PhoneRun.hasPhone_first (run : PhoneRun config world tenant userId p first trace) :
    ∃ stored, HasPhone config world tenant userId p stored first := by
  induction run with
  | stored visits phone served saved =>
    rcases posted_phone visits served with hphone | ⟨hnot, -⟩
    · rw [phone] at hphone
      exact hphone
    · rw [hnot _ rfl] at saved
      cases saved
  | cycle run opens visits form served ih => exact ih

theorem PhoneRun.strip_eq (run : PhoneRun config world tenant userId p first trace) :
    PyStr.strip p = p := by
  induction run with
  | stored visits phone served saved => rw [← phone, PyStr.strip_strip]
  | cycle run opens visits form served ih => exact ih

/-- A cycle that shows the phone keeps it. -/
theorem HasPhone.posted {r : Except PyError Response} {poster : Identity} {u : AppState}
    (h : HasPhone config world tenant userId p stored s) (stripped : PyStr.strip p = p)
    (opens : Opens config world tenant userId entered record s u)
    (hshown : (record.bind UserRow.phone).getD "" = p) (visits : Visits tenant userId poster u)
    (form : PostsBack record request)
    (served : world.run (Users.userDetailsUpdate config request poster) u = (r, t)) :
    ∃ stored, HasPhone config world tenant userId p stored t := by
  have hfield : request.field "phone" = p := by
    unfold Request.field
    rw [form "phone" (by simp)]
    exact hshown
  rcases posted_phone visits served with hphone | ⟨-, hrows⟩
  · rw [hfield, stripped] at hphone
    exact hphone
  · exact ⟨stored, h.congr (hrows.trans opens.shows.2)⟩

/-- Without a key, and without a phone, every cycle shows the phone and keeps it. -/
theorem PhoneRun.survives (run : PhoneRun config world tenant userId p first trace)
    (expands : world.kms.Expands) (hkey : config.keyless ∨ p = "") :
    (∃ stored, HasPhone config world tenant userId p stored (lastState first trace)) ∧
      ∀ cycle ∈ trace, cycle.shown = p ∧ Recoverable config world tenant userId p cycle.after := by
  induction run with
  | stored visits phone served saved =>
    exact ⟨(PhoneRun.stored visits phone served saved).hasPhone_first, List.forall_mem_nil _⟩
  | cycle run opens visits form served ih =>
    obtain ⟨⟨stored, hphone⟩, htrace⟩ := ih
    have hshown := (hphone.shown_iff expands opens).mpr hkey
    obtain ⟨stored', hphone'⟩ := hphone.posted run.strip_eq opens hshown visits form served
    refine ⟨⟨stored', hphone'⟩, List.forall_mem_cons.mpr ⟨⟨hshown, ?_⟩, htrace⟩⟩
    exact hphone'.recoverable expands

/-- The first page does not show the phone where there is a key. -/
theorem PhoneRun.first_shown (run : PhoneRun config world tenant userId p first trace)
    (expands : world.kms.Expands) (hcycles : trace ≠ []) (hkey : ¬ (config.keyless ∨ p = "")) :
    ∃ cycle ∈ trace, cycle.shown ≠ p := by
  induction run with
  | stored => exact absurd rfl hcycles
  | @cycle first trace entered poster record u t request response run opens visits form served ih =>
    by_cases hfirst : trace = []
    · subst hfirst
      obtain ⟨stored, hphone⟩ := run.hasPhone_first
      refine ⟨_, List.mem_cons_self .., fun hshown => hkey ?_⟩
      exact (hphone.shown_iff expands opens).mp hshown
    · obtain ⟨cycle, hcycle, hshown⟩ := ih hfirst
      exact ⟨cycle, List.mem_cons_of_mem _ hcycle, hshown⟩

end Requests

/-- A phone survives the cycles exactly when there is no key, no phone or no cycle. -/
theorem survives_iff_keyless (config : Config) (world : World) (tenant userId p : String)
    (first : AppState) (trace : List Cycle) (expands : world.kms.Expands)
    (run : PhoneRun config world tenant userId p first trace) :
    Survives config world tenant userId p first trace ↔
      config.demoMode = true ∨ config.kmsKeyId = "" ∨ p = "" ∨ trace = [] := by
  obtain ⟨stored, hphone⟩ := run.hasPhone_first
  have hfirst := hphone.recoverable expands
  rw [← or_assoc, ← or_assoc]
  constructor
  · intro hsurvives
    by_contra hneither
    obtain ⟨hkey, hcycles⟩ := not_or.mp hneither
    obtain ⟨cycle, hcycle, hshown⟩ := run.first_shown expands hcycles hkey
    exact hshown (hsurvives.2 cycle hcycle).1
  · intro h
    rcases h with hkey | rfl
    · exact ⟨hfirst, (run.survives expands hkey).2⟩
    · exact ⟨hfirst, List.forall_mem_nil _⟩

/-- alice's profile form with a phone. -/
def phoneForm (phone : String) : Request where
  method := "POST"
  path := "/api/v1/users/userdetails"
  headers _ := none
  cookies _ := none
  args _ := none
  form name := List.lookup name
    [("name", "alice"), ("email", "alice@a.example"), ("phone", phone), ("department", "")]

theorem quietWorld_expands : quietWorld.kms.Expands := fun _ plaintext =>
  Nat.le_succ plaintext.length

/-- The phone 5 is saved. -/
def phoneStored (config : Config) : AppState :=
  (quietWorld.run (Users.userDetailsUpdate config (phoneForm "5") sampleAdmin) emptyState).2

/-- Its page is opened. -/
def phoneOpened (config : Config) : AppState :=
  (quietWorld.run (Users.userDetailsPage config sampleAdmin) (phoneStored config)).2

/-- And posted with what it shows. -/
def phonePosted (config : Config) (shown : String) : AppState :=
  (quietWorld.run (Users.userDetailsUpdate config (phoneForm shown) sampleAdmin)
    (phoneOpened config)).2

/-- alice's row with a stored phone. -/
def phoneRow (stored : String) : UserRow :=
  { UserRow.withDefaults "u-1" "alice" "alice@a.example" "admin" with phone := some stored }

theorem phone_posts (shown : String) : PostsBack (some (phoneRow shown)) (phoneForm shown) := by
  unfold PostsBack
  simp only [List.forall_mem_cons]
  exact ⟨rfl, rfl, rfl, rfl, List.forall_mem_nil _⟩

/-- The form is posted as the page shows it. -/
theorem phone_cycled {config : Config} {shown : String}
    (visits : ∀ s ∈ [emptyState, phoneStored config, phoneOpened config],
      Visits "TenantA" "u-1" sampleAdmin s)
    (stored : (quietWorld.run (Users.userDetailsUpdate config (phoneForm "5") sampleAdmin)
      emptyState).1 = .ok (.redirect .adminDashboard))
    (opened : ∃ completion flashes, (quietWorld.run (Users.userDetailsPage config sampleAdmin)
      (phoneStored config)).1 =
        .ok (.page 200 (.userProfile sampleAdmin (some (phoneRow shown)) completion) flashes)) :
    PhoneRun config quietWorld "TenantA" "u-1" "5" (phoneStored config)
      [⟨shown, phonePosted config shown⟩] := by
  simp only [List.forall_mem_cons] at visits
  obtain ⟨hstart, hstored, hopened, -⟩ := visits
  obtain ⟨completion, flashes, hpage⟩ := opened
  have entered : PyStr.strip ((phoneForm "5").field "phone") = "5" := rfl
  have run : PhoneRun config quietWorld "TenantA" "u-1" "5" (phoneStored config) [] :=
    PhoneRun.stored hstart entered (Prod.ext stored rfl) rfl
  have opens : Opens config quietWorld "TenantA" "u-1" sampleAdmin (some (phoneRow shown))
      (phoneStored config) (phoneOpened config) :=
    ⟨hstored, _, _, _, Prod.ext hpage rfl⟩
  exact run.cycle opens hopened (phone_posts shown) Prod.mk.eta.symm

/-- No key is configured. -/
def keylessConfig : Config := { sampleConfig with kmsKeyId := "" }

theorem visits_cleared {config : Config} (stored : (phoneStored config).session.identity = none)
    (opened : (phoneOpened config).session.identity = none) :
    ∀ s ∈ [emptyState, phoneStored config, phoneOpened config],
      Visits "TenantA" "u-1" sampleAdmin s := by
  unfold Visits
  simp only [List.forall_mem_cons, stored, opened]
  exact ⟨⟨rfl, rfl⟩, ⟨rfl, rfl⟩, ⟨rfl, rfl⟩, List.forall_mem_nil _⟩

/-- Without a key the phone 5 survives the cycle. -/
theorem phone_survives : Survives keylessConfig quietWorld "TenantA" "u-1" "5"
    (phoneStored keylessConfig) [⟨"5", phonePosted keylessConfig "5"⟩] :=
  (survives_iff_keyless keylessConfig quietWorld "TenantA" "u-1" "5" _ _ quietWorld_expands
    (phone_cycled (visits_cleared rfl rfl) rfl ⟨_, _, rfl⟩)).mpr (.inr (.inl rfl))

/-- With a key the page shows the ciphertext, which the next save encrypts again. -/
theorem ciphertext_shown : ¬ ∀ (config : Config) (world : World) (tenant userId p : String)
    (first : AppState) (trace : List Cycle), world.kms.Expands →
    PhoneRun config world tenant userId p first trace →
    Survives config world tenant userId p first trace := by
  intro h
  have run : PhoneRun sampleConfig quietWorld "TenantA" "u-1" "5" (phoneStored sampleConfig)
      [⟨"ADU=", phonePosted sampleConfig "ADU="⟩] :=
    phone_cycled (visits_cleared rfl rfl) rfl ⟨_, _, rfl⟩
  have hsurvives := h _ _ _ _ _ _ _ quietWorld_expands run
  exact absurd (hsurvives.2 _ (List.mem_singleton_self _)).1 (by decide)

end TenantSaas
