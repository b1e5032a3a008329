import TenantSaas.Misc.JsonText

/-!
# Query strings

`urllib.parse.urlencode`, and the reading of `application/x-www-form-urlencoded`: both go by the
bytes of the UTF-8 of a text.
-/

namespace QueryText

/-! ## Writing -/

/-- `_ALWAYS_SAFE` -/
def isSafe (c : Char) : Bool := c.isAlphanum || c == '_' || c == '.' || c == '-' || c == '~'

def hexUpper (n : Nat) : Char := n.digitChar.toUpper

def quoteByte (b : UInt8) : List Char :=
  if isSafe (Char.ofNat b.toNat) then [Char.ofNat b.toNat]
  else if b = 32 then ['+']
  else ['%', hexUpper (b.toNat / 16), hexUpper (b.toNat % 16)]

/-- `quote_plus(s)` -/
def quotePlus (s : String) : List Char := s.toUTF8.data.toList.flatMap quoteByte

def quotePair (param : String × String) : List Char :=
  quotePlus param.1 ++ '=' :: quotePlus param.2

/-- `urlencode(params)` -/
def urlencode (params : List (String × String)) : List Char :=
  ['&'].intercalate (params.map quotePair)

/-! ## Reading -/

/-- `unquote_to_bytes`, with blanks for the plus signs. -/
def unquoteBytes : List Char → List UInt8
  | [] => []
  | c :: cs =>
    if c = '%' then
      match cs with
      | a :: b :: rest =>
        match JsonText.hexDigit? a, JsonText.hexDigit? b with
        | some x, some y => UInt8.ofNat (16 * x + y) :: unquoteBytes rest
        | _, _ => 37 :: unquoteBytes (a :: b :: rest)
      | rest => 37 :: unquoteBytes rest
    else if c = '+' then 32 :: unquoteBytes cs
    else String.utf8EncodeChar c ++ unquoteBytes cs

/-- A text whose bytes are no UTF-8 is not read. -/
def unquotePlus (text : List Char) : Option String :=
  String.fromUTF8? ⟨(unquoteBytes text).toArray⟩

/-- A part without an equals sign is a name. -/
def readPair (part : List Char) : Option (String × String) := do
  let (name, value) := (PyStr.splitOnce '=' part).getD (part, [])
  let name ← unquotePlus name
  let value ← unquotePlus value
  some (name, value)

/-- `parse_qsl(text, keep_blank_values=True)` -/
def readQuery (text : List Char) : Option (List (String × String)) :=
  ((text.splitOn '&').filter (· ≠ [])).mapM readPair

/-- The text has neither a query nor a fragment. -/
def isBase (text : String) : Bool := text.toList.all fun c => c != '?' && c != '#'

/-- `f"{base}?{urlencode(params)}"` -/
def writeUrl (base : String) (params : List (String × String)) : String :=
  base ++ "?" ++ String.ofList (urlencode params)

/-- A URL without its fragment, cut at the first question mark. -/
def readUrl (text : String) : Option (String × List (String × String)) := do
  let (base, query) ← PyStr.splitOnce '?' (text.toList.takeWhile (· ≠ '#'))
  let params ← readQuery query
  some (String.ofList base, params)

/-! ## Round trip -/

section RoundTrip

theorem hexDigit?_hexUpper {n : Nat} (h : n < 16) :
    JsonText.hexDigit? (hexUpper n) = some n := by
  have hall : ∀ i : Fin 16, JsonText.hexDigit? (hexUpper i) = some i.val := by decide
  exact hall ⟨n, h⟩

theorem isSafe_hexUpper {n : Nat} (h : n < 16) : isSafe (hexUpper n) = true := by
  have hall : ∀ i : Fin 16, isSafe (hexUpper i) = true := by decide
  exact hall ⟨n, h⟩

/-- What `quote_plus` writes. -/
def IsQuoted (c : Char) : Prop := isSafe c = true ∨ c = '+' ∨ c = '%'

theorem isQuoted_quoteByte {b : UInt8} {c : Char} (h : c ∈ quoteByte b) : IsQuoted c := by
  have hb : b.toNat < 256 := b.toNat_lt
  unfold quoteByte at h
  split at h
  · rename_i hsafe
    rw [List.mem_singleton.mp h]
    exact .inl hsafe
  · split at h
    · rw [List.mem_singleton.mp h]
      exact .inr (.inl rfl)
    · simp only [List.mem_cons, List.not_mem_nil, or_false] at h
      rcases h with rfl | rfl | rfl
      · exact .inr (.inr rfl)
      · exact .inl (isSafe_hexUpper (by omega))
      · exact .inl (isSafe_hexUpper (by omega))

theorem isQuoted_quotePlus {s : String} {c : Char} (h : c ∈ quotePlus s) : IsQuoted c := by
  obtain ⟨b, -, hc⟩ := List.mem_flatMap.mp h
  exact isQuoted_quoteByte hc

theorem notMem_quotePlus {c : Char} (h : ¬ IsQuoted c) (s : String) : c ∉ quotePlus s :=
  fun hmem => h (isQuoted_quotePlus hmem)

theorem notMem_quotePair {c : Char} (h : ¬ IsQuoted c) (heq : c ≠ '=')
    (param : String × String) : c ∉ quotePair param := by
  simp only [quotePair, List.mem_append, List.mem_cons, not_or]
  exact ⟨notMem_quotePlus h _, heq, notMem_quotePlus h _⟩

/-- A safe byte is the UTF-8 of its character. -/
theorem utf8_safe {b : UInt8} (h : isSafe (Char.ofNat b.toNat) = true) :
    String.utf8EncodeChar (Char.ofNat b.toNat) = [b] := by
  have hall : ∀ i : Fin 256, isSafe (Char.ofNat i) = true →
      String.utf8EncodeChar (Char.ofNat i) = [UInt8.ofNat i] := by decide +kernel
  have hb := hall ⟨b.toNat, b.toNat_lt⟩ h
  rwa [UInt8.ofNat_toNat] at hb

theorem unquoteBytes_cons {c : Char} (h : c ≠ '%') (cs : List Char) :
    unquoteBytes (c :: cs) =
      if c = '+' then 32 :: unquoteBytes cs else String.utf8EncodeChar c ++ unquoteBytes cs := by
  rcases cs with _ | ⟨a, _ | ⟨b, rest⟩⟩ <;> simp [unquoteBytes, h]

theorem unquoteBytes_quoteByte (b : UInt8) (rest : List Char) :
    unquoteBytes (quoteByte b ++ rest) = b :: unquoteBytes rest := by
  have hb : b.toNat < 256 := b.toNat_lt
  unfold quoteByte
  split
  · rename_i hsafe
    have hpercent : Char.ofNat b.toNat ≠ '%' := fun h => by rw [h] at hsafe; cases hsafe
    have hplus : Char.ofNat b.toNat ≠ '+' := fun h => by rw [h] at hsafe; cases hsafe
    rw [List.singleton_append, unquoteBytes_cons hpercent, if_neg hplus, utf8_safe hsafe]
    rfl
  · split
    · rename_i hblank
      rw [List.singleton_append, unquoteBytes_cons (by decide), if_pos rfl, hblank]
    · rw [List.cons_append, List.cons_append, List.singleton_append, unquoteBytes, if_pos rfl,
        hexDigit?_hexUpper (by omega), hexDigit?_hexUpper (by omega)]
      have hnat : 16 * (b.toNat / 16) + b.toNat % 16 = b.toNat := Nat.div_add_mod _ _
      show UInt8.ofNat (16 * (b.toNat / 16) + b.toNat % 16) :: unquoteBytes rest = _
      rw [hnat, UInt8.ofNat_toNat]

theorem unquoteBytes_flatMap (bytes : List UInt8) :
    unquoteBytes (bytes.flatMap quoteByte) = bytes := by
  induction bytes with
  | nil => rw [List.flatMap_nil, unquoteBytes]
  | cons b bytes ih => rw [List.flatMap_cons, unquoteBytes_quoteByte, ih]

theorem unquotePlus_quotePlus (s : String) : unquotePlus (quotePlus s) = some s := by
  have hbytes : (⟨(unquoteBytes (quotePlus s)).toArray⟩ : ByteArray) = s.toUTF8 := by
    rw [quotePlus, unquoteBytes_flatMap, Array.toArray_toList]
  have hvalid : s.toUTF8.IsValidUTF8 := s.isValidUTF8
  rw [unquotePlus, hbytes, String.fromUTF8?, dif_pos hvalid]
  rfl

theorem readPair_quotePair (param : String × String) : readPair (quotePair param) = some param := by
  have hname : '=' ∉ quotePlus param.1 := notMem_quotePlus (by unfold IsQuoted; decide) _
  unfold readPair quotePair
  rw [PyStr.splitOnce_append _ _ _ hname]
  simp only [Option.getD_some, unquotePlus_quotePlus]
  rfl

theorem mapM_readPair (params : List (String × String)) :
    (params.map quotePair).mapM readPair = some params := by
  induction params with
  | nil => rfl
  | cons param params ih =>
    rw [List.map_cons, List.mapM_cons, readPair_quotePair, ih]
    rfl

/-- What `urlencode` writes is read back. -/
theorem readQuery_urlencode (params : List (String × String)) :
    readQuery (urlencode params) = some params := by
  cases params with
  | nil => rfl
  | cons param params =>
    have hparts : ∀ part ∈ (param :: params).map quotePair, '&' ∉ part := by
      intro part hpart
      obtain ⟨_, -, rfl⟩ := List.mem_map.mp hpart
      exact notMem_quotePair (by unfold IsQuoted; decide) (by decide) _
    have hnonempty : ((param :: params).map quotePair).filter (· ≠ []) =
        (param :: params).map quotePair := by
      refine List.filter_eq_self.mpr fun part hpart => ?_
      obtain ⟨_, -, rfl⟩ := List.mem_map.mp hpart
      simp [quotePair]
    rw [readQuery, urlencode, List.splitOn_intercalate '&' hparts (by simp), hnonempty,
      mapM_readPair]

theorem notMem_urlencode {c : Char} (h : ¬ IsQuoted c) (hequals : c ≠ '=') (hampersand : c ≠ '&')
    (params : List (String × String)) : c ∉ urlencode params := by
  unfold urlencode
  induction params with
  | nil => simp
  | cons param params ih =>
    have hparam := notMem_quotePair h hequals param
    cases params with
    | nil => simpa using hparam
    | cons next params =>
      rw [List.map_cons, List.map_cons, List.intercalate_cons_cons]
      simp only [List.mem_append, List.mem_singleton, not_or]
      exact ⟨⟨hparam, hampersand⟩, ih⟩

theorem isBase_append (a b : String) : isBase (a ++ b) = (isBase a && isBase b) := by
  rw [isBase, String.toList_append, List.all_append]
  rfl

/-- The text of a URL gives back its base and its parameters, whatever the parameters hold. -/
theorem readUrl_writeUrl {base : String} (h : isBase base = true)
    (params : List (String × String)) : readUrl (writeUrl base params) = some (base, params) := by
  have hchars : ∀ c ∈ base.toList, c ≠ '?' ∧ c ≠ '#' := by simpa [isBase] using h
  have hquery : '?' ∉ base.toList := fun hc => (hchars _ hc).1 rfl
  have hfragment : '#' ∉ base.toList := fun hc => (hchars _ hc).2 rfl
  have htext : (writeUrl base params).toList = base.toList ++ '?' :: urlencode params := by
    simp [writeUrl]
  have hkept : ∀ c ∈ base.toList ++ '?' :: urlencode params, decide (c ≠ '#') = true := by
    intro c hc
    rw [decide_eq_true_eq]
    rintro rfl
    rcases List.mem_append.mp hc with hc | hc
    · exact hfragment hc
    · rcases List.mem_cons.mp hc with hc | hc
      · cases hc
      · exact notMem_urlencode (by unfold IsQuoted; decide) (by decide) (by decide) params hc
  rw [readUrl, htext, List.takeWhile_eq_self_iff.mpr hkept, PyStr.splitOnce_append _ _ _ hquery]
  simp only [Option.bind_eq_bind, Option.bind_some, readQuery_urlencode, String.ofList_toList]

end RoundTrip

end QueryText
