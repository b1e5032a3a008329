import TenantSaas.Misc.JsonText

/-!
# Values read back

A value reads back from the text that was written for it, whatever its strings hold, and the
text is printable ASCII.
-/

namespace JsonText

open TenantSaas

/-! ## Strings -/

theorem hexDigit?_digitChar {n : Nat} (h : n < 16) : hexDigit? n.digitChar = some n := by
  have hall : ∀ n < 16, hexDigit? n.digitChar = some n := by decide
  exact hall n h

theorem hexCode_hex4 {n : Nat} (h : n < 65536) (rest : List Char) :
    ∃ a b c d, unicodeEscape n ++ rest = '\\' :: 'u' :: a :: b :: c :: d :: rest ∧
      hexCode a b c d = some n := by
  refine ⟨_, _, _, _, rfl, ?_⟩
  unfold hexCode
  rw [hexDigit?_digitChar (Nat.mod_lt _ (by decide)),
    hexDigit?_digitChar (Nat.mod_lt _ (by decide)),
    hexDigit?_digitChar (Nat.mod_lt _ (by decide)),
    hexDigit?_digitChar (Nat.mod_lt _ (by decide))]
  show some _ = some n
  congr 1
  omega

@[simp] theorem readString_quote (rest : List Char) :
    readString ('"' :: rest) = some ([], rest) := by
  rw [readString.eq_def]
  simp

theorem readString_plain {c : Char} (hquote : c ≠ '"') (hbackslash : c ≠ '\\')
    (hcontrol : ¬ c.toNat < 32) (rest : List Char) :
    readString (c :: rest) = (readString rest).map fun r => (c :: r.1, r.2) := by
  rw [readString.eq_def]
  simp [hquote, hbackslash, hcontrol]

theorem readString_code {n : Nat} (h : n < 65536) (hhigh : isHigh n = false)
    (hlow : isLow n = false) (rest : List Char) :
    readString (unicodeEscape n ++ rest) =
      (readString rest).map fun r => (Char.ofNat n :: r.1, r.2) := by
  obtain ⟨a, b, c, d, htext, hcode⟩ := hexCode_hex4 h rest
  rw [htext]
  simp [readString, hcode, hhigh, hlow]

theorem readString_pair {n m : Nat} (hn : isHigh n = true) (hm : isLow m = true)
    (rest : List Char) :
    readString (unicodeEscape n ++ (unicodeEscape m ++ rest)) = (readString rest).map fun r =>
      (Char.ofNat (65536 + 1024 * (n - 55296) + (m - 56320)) :: r.1, r.2) := by
  have hn' : n < 65536 := by
    simp only [isHigh, Bool.and_eq_true, decide_eq_true_eq] at hn
    omega
  have hm' : m < 65536 := by
    simp only [isLow, Bool.and_eq_true, decide_eq_true_eq] at hm
    omega
  obtain ⟨a, b, c, d, htext, hcode⟩ := hexCode_hex4 hn' (unicodeEscape m ++ rest)
  obtain ⟨a', b', c', d', htext', hcode'⟩ := hexCode_hex4 hm' rest
  rw [htext, htext']
  simp [readString, hcode, hcode', hn, hm]

theorem mem_shortEscapes {c e : Char} (h : shortEscapes.lookup c = some e) :
    (c, e) ∈ shortEscapes := by
  obtain ⟨before, after, heq, -⟩ := List.lookup_eq_some_iff.mp h
  simp [heq]

/-- What a character is written as is read as that character. -/
theorem readString_escape (c : Char) (rest : List Char) :
    readString (escape c ++ rest) = (readString rest).map fun r => (c :: r.1, r.2) := by
  have hvalid : c.toNat < 55296 ∨ 57343 < c.toNat ∧ c.toNat < 1114112 := c.valid
  unfold escape
  cases hshort : shortEscapes.lookup c with
  | some e =>
    have hmem := mem_shortEscapes hshort
    simp only [shortEscapes, List.mem_cons, Prod.mk.injEq, List.not_mem_nil, or_false] at hmem
    rcases hmem with ⟨rfl, rfl⟩ | ⟨rfl, rfl⟩ | ⟨rfl, rfl⟩ | ⟨rfl, rfl⟩ | ⟨rfl, rfl⟩ | ⟨rfl, rfl⟩ |
      ⟨rfl, rfl⟩
    all_goals rfl
  | none =>
    have hquote : c ≠ '"' := by
      rintro rfl
      cases hshort
    have hbackslash : c ≠ '\\' := by
      rintro rfl
      cases hshort
    by_cases hprintable : isPrintable c = true
    · have hcontrol : ¬ c.toNat < 32 := by
        simp only [isPrintable, Bool.and_eq_true, decide_eq_true_eq] at hprintable
        omega
      rw [if_pos hprintable]
      exact readString_plain hquote hbackslash hcontrol rest
    simp only [hprintable, Bool.false_eq_true, if_false]
    by_cases hbasic : c.toNat < 65536
    · have hhigh : isHigh c.toNat = false := by
        rw [Bool.eq_false_iff]
        simp only [isHigh, ne_eq, Bool.and_eq_true, decide_eq_true_eq]
        omega
      have hlow : isLow c.toNat = false := by
        rw [Bool.eq_false_iff]
        simp only [isLow, ne_eq, Bool.and_eq_true, decide_eq_true_eq]
        omega
      rw [if_pos hbasic, readString_code hbasic hhigh hlow, Char.ofNat_toNat]
    -- a character outside the basic plane is written as two surrogates
    · have hhigh : isHigh (55296 + (c.toNat - 65536) / 1024) = true := by
        simp only [isHigh, Bool.and_eq_true, decide_eq_true_eq]
        omega
      have hlow : isLow (56320 + (c.toNat - 65536) % 1024) = true := by
        simp only [isLow, Bool.and_eq_true, decide_eq_true_eq]
        omega
      have hcode : 65536 + 1024 * (55296 + (c.toNat - 65536) / 1024 - 55296) +
          (56320 + (c.toNat - 65536) % 1024 - 56320) = c.toNat := by omega
      rw [if_neg hbasic, List.append_assoc, readString_pair hhigh hlow, hcode, Char.ofNat_toNat]

theorem readString_writeString (s : String) (rest : List Char) :
    readString (s.toList.flatMap escape ++ '"' :: rest) = some (s.toList, rest) := by
  induction s.toList with
  | nil => exact readString_quote rest
  | cons c cs ih =>
    rw [List.flatMap_cons, List.append_assoc, readString_escape, ih]
    rfl

theorem readString_key (key : String) (rest : List Char) :
    ∃ cs, writeString key ++ rest = '"' :: cs ∧ readString cs = some (key.toList, rest) :=
  ⟨_, by rw [writeString, List.cons_append, List.append_assoc]; rfl,
    readString_writeString key rest⟩

/-! ## Numbers -/

/-- What does not go on with a number. -/
def EndsNumber (rest : List Char) : Prop :=
  ∀ c ∈ rest.head?, c.isDigit = false ∧ c ≠ '.' ∧ c ≠ 'e' ∧ c ≠ 'E'

theorem toDigits_eq_cons (n : Nat) : ∃ d ds, Nat.toDigits 10 n = d :: ds ∧ d.isDigit = true ∧
    (n ≠ 0 → d ≠ '0') ∧ ∀ c ∈ ds, c.isDigit = true := by
  have hdigit : ∀ c ∈ Nat.toDigits 10 n, c.isDigit = true := fun c hc =>
    Nat.isDigit_of_mem_toDigits (by decide) (by decide) hc
  have hhead : ∀ c ∈ (Nat.toDigits 10 n).head?, n ≠ 0 → c ≠ '0' := by
    clear hdigit
    induction n using Nat.strong_induction_on with
    | _ n ih =>
      by_cases hn : n < 10
      · rw [Nat.toDigits_of_lt_base hn]
        have hall : ∀ n < 10, n ≠ 0 → n.digitChar ≠ '0' := by decide
        rintro c ⟨⟩
        exact hall n hn
      · rw [Nat.toDigits_of_base_le (by decide) (by omega), List.head?_append_of_ne_nil _
          Nat.toDigits_ne_nil]
        intro c hc _
        exact ih (n / 10) (by omega) c hc (by omega)
  cases hdigits : Nat.toDigits 10 n with
  | nil => exact absurd hdigits Nat.toDigits_ne_nil
  | cons d ds =>
    rw [hdigits] at hdigit hhead
    exact ⟨d, ds, rfl, hdigit d List.mem_cons_self, hhead d rfl,
      fun c hc => hdigit c (List.mem_cons_of_mem _ hc)⟩

theorem takeWhile_of_ends {ds rest : List Char} (hds : ∀ c ∈ ds, c.isDigit = true)
    (h : EndsNumber rest) :
    (ds ++ rest).takeWhile Char.isDigit = ds ∧ (ds ++ rest).dropWhile Char.isDigit = rest := by
  rw [List.takeWhile_append_of_pos hds, List.dropWhile_append_of_pos hds]
  cases rest with
  | nil => simp
  | cons c cs =>
    have hc := (h c rfl).1
    simp [hc]

theorem readWhole_toDigits (n : Nat) {rest : List Char} (h : EndsNumber rest) :
    readWhole (Nat.toDigits 10 n ++ rest) = some (Nat.toDigits 10 n, rest) := by
  by_cases hn : n = 0
  · subst hn
    rfl
  obtain ⟨d, ds, hdigits, hd, hzero, hds⟩ := toDigits_eq_cons n
  have hall : ∀ c ∈ d :: ds, c.isDigit = true := by simpa [hd] using hds
  obtain ⟨htake, hdrop⟩ := takeWhile_of_ends hall h
  rw [hdigits]
  rw [List.cons_append] at htake hdrop ⊢
  rw [readWhole, if_neg (hzero hn), if_pos hd, htake, hdrop]

theorem readFraction_of_ends {rest : List Char} (h : EndsNumber rest) :
    readFraction rest = ([], rest) := by
  rw [readFraction, if_neg]
  rintro ⟨hdot, -⟩
  exact (h '.' hdot).2.1 rfl

theorem readExponent_of_ends {rest : List Char} (h : EndsNumber rest) :
    readExponent rest = (none, rest) := by
  rw [readExponent, if_neg]
  rintro (hexp | hexp)
  · exact (h 'e' hexp).2.2.1 rfl
  · exact (h 'E' hexp).2.2.2 rfl

theorem readNumber_writeInt (n : Int) {rest : List Char} (h : EndsNumber rest) :
    readNumber (writeInt n ++ rest) = some (.int n, rest) := by
  cases n with
  | ofNat n =>
    obtain ⟨d, ds, hdigits, hd, -⟩ := toDigits_eq_cons n
    have hnegative : ((Nat.toDigits 10 n ++ rest).head? == some '-') = false := by
      have hne : d ≠ '-' := by
        rintro rfl
        cases hd
      simpa [hdigits] using hne
    unfold readNumber writeInt
    simp only [hnegative, Bool.false_eq_true, if_false, readWhole_toDigits n h,
      readFraction_of_ends h, readExponent_of_ends h, List.append_nil, and_self, if_true,
      Nat.ofDigitChars_ten_toDigits]
    rfl
  | negSucc n =>
    unfold readNumber writeInt
    simp only [List.cons_append, List.head?_cons, BEq.rfl, if_true, List.tail_cons,
      readWhole_toDigits (n + 1) h, readFraction_of_ends h, readExponent_of_ends h,
      List.append_nil, and_self, Nat.ofDigitChars_ten_toDigits]
    rfl

theorem readWord_of_digit {d : Char} {cs : List Char} (hd : d.isDigit = true) :
    readWord (d :: cs) = none ∧ readWord ('-' :: d :: cs) = none := by
  have hne : d ≠ 'n' ∧ d ≠ 't' ∧ d ≠ 'f' ∧ d ≠ 'N' ∧ d ≠ 'I' ∧ d ≠ '-' := by
    refine ⟨?_, ?_, ?_, ?_, ?_, ?_⟩ <;> rintro rfl <;> cases hd
  obtain ⟨hn, ht, hf, hN, hI, hminus⟩ := hne
  constructor <;>
    simp [readWord, words, List.isPrefixOf, hn.symm, ht.symm, hf.symm, hN.symm, hI.symm,
      hminus.symm]

theorem read_writeInt (n : Int) (m : Nat) {rest : List Char} (h : EndsNumber rest) :
    read (m + 1) (writeInt n ++ rest) = some (.int n, rest) := by
  have hnumber := readNumber_writeInt n h
  cases n with
  | ofNat n =>
    obtain ⟨d, ds, hdigits, hd, -⟩ := toDigits_eq_cons n
    have hne : d ≠ '"' ∧ d ≠ '[' ∧ d ≠ '{' := by
      refine ⟨?_, ?_, ?_⟩ <;> rintro rfl <;> cases hd
    rw [writeInt, hdigits, List.cons_append] at hnumber ⊢
    simp [read, hne, (readWord_of_digit hd).1, hnumber]
  | negSucc n =>
    obtain ⟨d, ds, hdigits, hd, -⟩ := toDigits_eq_cons (n + 1)
    rw [writeInt, hdigits, List.cons_append, List.cons_append] at hnumber ⊢
    simp [read, (readWord_of_digit hd).2, hnumber]

/-! ## Values -/

/-- A value without floats, each dict of which has its keys once. -/
inductive Plain : Json → Prop where
  | null : Plain .null
  | bool (b : Bool) : Plain (.bool b)
  | int (n : Int) : Plain (.int n)
  | str (s : String) : Plain (.str s)
  | arr {items : List Json} (h : ∀ v ∈ items, Plain v) : Plain (.arr items)
  | obj {fields : List (String × Json)} (distinct : (fields.map Prod.fst).Nodup)
      (h : ∀ field ∈ fields, Plain field.2) : Plain (.obj fields)

theorem plain_ofOption (s : Option String) : Plain (Json.ofOption s) := by
  cases s with
  | none => exact .null
  | some s => exact .str s

theorem dictSet_of_notMem {key : String} {v : Json} {entries : List (String × Json)}
    (h : key ∉ entries.map Prod.fst) : dictSet key v entries = entries ++ [(key, v)] := by
  induction entries with
  | nil => rfl
  | cons entry entries ih =>
    simp only [List.map_cons, List.mem_cons, not_or] at h
    rw [dictSet, if_neg (Ne.symm h.1), ih h.2]
    rfl

theorem dict_of_distinct {pairs : List (String × Json)} (h : (pairs.map Prod.fst).Nodup) :
    dict pairs = pairs := by
  have hfold : ∀ entries : List (String × Json), ((entries ++ pairs).map Prod.fst).Nodup →
      pairs.foldl (fun entries pair => dictSet pair.1 pair.2 entries) entries =
        entries ++ pairs := by
    clear h
    induction pairs with
    | nil => simp
    | cons pair pairs ih =>
      intro entries h
      have hfresh : pair.1 ∉ entries.map Prod.fst := by
        rw [List.map_append, List.map_cons] at h
        exact fun hmem => (List.nodup_append.mp h).2.2 _ hmem _ List.mem_cons_self rfl
      rw [List.foldl_cons, dictSet_of_notMem hfresh, ih _ (by simpa using h)]
      simp
  exact hfold [] h

section Values

variable {float : PyFloat → List Char}

/-- A character with which a value starts. -/
def Opens (c : Char) : Prop :=
  c ≠ ' ' ∧ c ≠ '\t' ∧ c ≠ '\n' ∧ c ≠ '\r' ∧ c ≠ ']' ∧ c ≠ '}'

instance (c : Char) : Decidable (Opens c) := inferInstanceAs (Decidable (_ ∧ _))

theorem skip_of_opens {c : Char} (h : Opens c) (cs : List Char) : skip (c :: cs) = c :: cs := by
  obtain ⟨hspace, htab, hline, hreturn, -⟩ := h
  simp [skip, hspace, htab, hline, hreturn]

theorem opens_write {v : Json} (h : Plain v) :
    ∃ c cs, write float v = c :: cs ∧ Opens c := by
  cases h with
  | null => exact ⟨_, _, by rw [write]; rfl, by decide⟩
  | bool b => cases b <;> exact ⟨_, _, by rw [write]; rfl, by decide⟩
  | int n =>
    rw [write]
    cases n with
    | ofNat n =>
      obtain ⟨d, ds, hdigits, hd, -⟩ := toDigits_eq_cons n
      refine ⟨d, ds, hdigits, ?_⟩
      refine ⟨?_, ?_, ?_, ?_, ?_, ?_⟩ <;> rintro rfl <;> cases hd
    | negSucc n => exact ⟨_, _, rfl, by decide⟩
  | str s => exact ⟨_, _, by rw [write]; rfl, by decide⟩
  | @arr items h => cases items <;> exact ⟨_, _, by rw [write], by decide⟩
  | @obj fields _ h => cases fields <;> exact ⟨_, _, by rw [write], by decide⟩

/-- Reading gives back a value whose text the fuel covers, and leaves the rest. -/
def ReadsBack (float : PyFloat → List Char) (v : Json) : Prop :=
  ∀ n rest, (write float v).length < n → EndsNumber rest →
    read n (write float v ++ rest) = some (v, rest)

theorem endsNumber_of_cons {c : Char} {cs : List Char} (h : c = ',' ∨ c = ']' ∨ c = '}') :
    EndsNumber (c :: cs) := by
  rintro _ ⟨⟩
  rcases h with rfl | rfl | rfl <;> decide

theorem readItems_write {vs : List Json} {v : Json} (hplain : ∀ w ∈ v :: vs, Plain w)
    (hback : ∀ w ∈ v :: vs, ReadsBack float w) (n : Nat) (rest : List Char)
    (hn : (write float v ++ writeItems float vs).length < n) :
    readItems n (write float v ++ (writeItems float vs ++ rest)) = some (v :: vs, rest) := by
  induction vs generalizing v n with
  | nil =>
    obtain ⟨n, rfl⟩ := Nat.exists_eq_succ_of_ne_zero (Nat.ne_zero_of_lt hn)
    rw [writeItems] at hn ⊢
    rw [List.length_append, List.length_singleton] at hn
    have hread := hback v (by simp) n (']' :: rest) (by omega) (endsNumber_of_cons (by simp))
    rw [List.singleton_append, readItems, hread]
    simp [skip]
  | cons w vs ih =>
    obtain ⟨n, rfl⟩ := Nat.exists_eq_succ_of_ne_zero (Nat.ne_zero_of_lt hn)
    rw [writeItems] at hn ⊢
    simp only [List.length_append, List.length_cons] at hn
    have hread := hback v (by simp) n
      (',' :: ' ' :: (write float w ++ (writeItems float vs ++ rest))) (by omega)
      (endsNumber_of_cons (by simp))
    have hitems := ih (v := w) (fun u hu => hplain u (List.mem_cons_of_mem _ hu))
      (fun u hu => hback u (List.mem_cons_of_mem _ hu)) n (by rw [List.length_append]; omega)
    obtain ⟨c, cs, hwrite, hopens⟩ := @opens_write float _ (hplain w (by simp))
    have hskip : skip (' ' :: (write float w ++ (writeItems float vs ++ rest))) =
        write float w ++ (writeItems float vs ++ rest) := by
      rw [hwrite, List.cons_append]
      exact skip_of_opens hopens _
    have hcomma : skip (',' :: ' ' :: (write float w ++ (writeItems float vs ++ rest))) =
        ',' :: ' ' :: (write float w ++ (writeItems float vs ++ rest)) := by
      simp [skip]
    simp only [List.cons_append, List.append_assoc]
    rw [readItems, hread]
    simp only [hcomma, hskip, hitems]
    rfl

/-- Where the reader of a dict stands after the key, the colon and the space. -/
theorem readString_field (key : String) {v : Json} (hplain : Plain v) (tail : List Char) :
    let text := ':' :: ' ' :: (write float v ++ tail)
    ∃ cs, writeString key ++ text = '"' :: cs ∧ readString cs = some (key.toList, text) ∧
      skip text = text ∧ skip (' ' :: (write float v ++ tail)) = write float v ++ tail := by
  obtain ⟨cs, htext, hkey⟩ := readString_key key (':' :: ' ' :: (write float v ++ tail))
  obtain ⟨c, ds, hwrite, hopens⟩ := @opens_write float _ hplain
  refine ⟨cs, htext, hkey, by simp [skip], ?_⟩
  rw [hwrite, List.cons_append]
  exact skip_of_opens hopens _

theorem readFields_write {fields : List (String × Json)} {key : String} {v : Json}
    (hplain : ∀ field ∈ (key, v) :: fields, Plain field.2)
    (hback : ∀ field ∈ (key, v) :: fields, ReadsBack float field.2) (n : Nat) (rest : List Char)
    (hn : (writeString key ++
      ':' :: ' ' :: (write float v ++ writeFields float fields)).length < n) :
    readFields n (writeString key ++
      ':' :: ' ' :: (write float v ++ (writeFields float fields ++ rest))) =
      some ((key, v) :: fields, rest) := by
  induction fields generalizing key v n with
  | nil =>
    obtain ⟨n, rfl⟩ := Nat.exists_eq_succ_of_ne_zero (Nat.ne_zero_of_lt hn)
    rw [writeFields] at hn ⊢
    simp only [List.length_append, List.length_cons] at hn
    have hread := hback (key, v) (by simp) n ('}' :: rest) (by dsimp only; omega)
      (endsNumber_of_cons (by simp))
    obtain ⟨cs, htext, hkey, hcolon, hskip⟩ :=
      @readString_field float key _ (hplain (key, v) (by simp)) ('}' :: rest)
    rw [List.singleton_append, htext, readFields]
    simp only [hkey, hcolon, hskip, hread, String.ofList_toList]
    simp [skip]
  | cons field fields ih =>
    obtain ⟨key', w⟩ := field
    obtain ⟨n, rfl⟩ := Nat.exists_eq_succ_of_ne_zero (Nat.ne_zero_of_lt hn)
    rw [writeFields] at hn ⊢
    simp only [List.length_append, List.length_cons] at hn
    let more := writeString key' ++
      ':' :: ' ' :: (write float w ++ (writeFields float fields ++ rest))
    have hread := hback (key, v) (by simp) n (',' :: ' ' :: more) (by dsimp only; omega)
      (endsNumber_of_cons (by simp))
    have hfields := ih (fun field hfield => hplain field (List.mem_cons_of_mem _ hfield))
      (fun field hfield => hback field (List.mem_cons_of_mem _ hfield)) n
      (by simp only [List.length_append, List.length_cons]; omega)
    obtain ⟨cs, htext, hkey, hcolon, hskip⟩ :=
      @readString_field float key _ (hplain (key, v) (by simp)) (',' :: ' ' :: more)
    have hcomma : skip (',' :: ' ' :: more) = ',' :: ' ' :: more := by
      simp [skip]
    have hmore : skip (' ' :: more) = more := by
      obtain ⟨cs', htext', -⟩ := readString_key key'
        (':' :: ' ' :: (write float w ++ (writeFields float fields ++ rest)))
      simp only [more, htext']
      exact skip_of_opens (show Opens '"' by decide) cs'
    have htail : ',' :: ' ' :: (writeString key' ++ ':' :: ' ' ::
        (write float w ++ writeFields float fields)) ++ rest = ',' :: ' ' :: more := by
      simp [more]
    rw [htail, htext, readFields]
    simp only [hkey, hcolon, hskip, hread, hcomma, hmore, String.ofList_toList]
    rw [hfields]
    rfl

theorem read_items {n : Nat} {cs : List Char} (h : (skip cs).head? ≠ some ']') :
    read (n + 1) ('[' :: cs) = (readItems n (skip cs)).map fun r => (.arr r.1, r.2) := by
  simp only [read, h, if_false]
  rfl

theorem read_fields {n : Nat} {cs : List Char} (h : (skip cs).head? ≠ some '}') :
    read (n + 1) ('{' :: cs) = (readFields n (skip cs)).map fun r => (.obj (dict r.1), r.2) := by
  simp only [read, h, if_false]
  rfl

/-- A value reads back from its text. -/
theorem readsBack {v : Json} (h : Plain v) : ReadsBack float v := by
  induction h with
  | null =>
    intro n rest hn _
    obtain ⟨n, rfl⟩ := Nat.exists_eq_succ_of_ne_zero (Nat.ne_zero_of_lt hn)
    simp [write, read, readWord, words]
  | bool b =>
    intro n rest hn _
    obtain ⟨n, rfl⟩ := Nat.exists_eq_succ_of_ne_zero (Nat.ne_zero_of_lt hn)
    cases b <;> simp [write, read, readWord, words]
  | int i =>
    intro n rest hn hends
    obtain ⟨n, rfl⟩ := Nat.exists_eq_succ_of_ne_zero (Nat.ne_zero_of_lt hn)
    rw [write]
    exact read_writeInt i n hends
  | str s =>
    intro n rest hn _
    obtain ⟨n, rfl⟩ := Nat.exists_eq_succ_of_ne_zero (Nat.ne_zero_of_lt hn)
    obtain ⟨cs, htext, hs⟩ := readString_key s rest
    rw [write, htext]
    simp [read, hs]
  | @arr items hplain ih =>
    intro n rest hn _
    obtain ⟨n, rfl⟩ := Nat.exists_eq_succ_of_ne_zero (Nat.ne_zero_of_lt hn)
    cases items with
    | nil => simp [write, read, skip]
    | cons v vs =>
      rw [write] at hn ⊢
      rw [List.length_cons] at hn
      obtain ⟨c, cs, hwrite, hopens⟩ := @opens_write float _ (hplain v (by simp))
      have hskip : skip (write float v ++ (writeItems float vs ++ rest)) =
          write float v ++ (writeItems float vs ++ rest) := by
        rw [hwrite, List.cons_append]
        exact skip_of_opens hopens _
      have hhead : (write float v ++ (writeItems float vs ++ rest)).head? ≠ some ']' := by
        rw [hwrite]
        exact fun h => hopens.2.2.2.2.1 (Option.some.inj h)
      have hitems := readItems_write hplain ih n rest (by omega)
      rw [List.cons_append, List.append_assoc, read_items (by rwa [hskip]), hskip, hitems]
      rfl
  | @obj fields distinct hplain ih =>
    intro n rest hn _
    obtain ⟨n, rfl⟩ := Nat.exists_eq_succ_of_ne_zero (Nat.ne_zero_of_lt hn)
    cases fields with
    | nil => simp [write, read, skip]
    | cons field fields =>
      obtain ⟨key, v⟩ := field
      rw [write] at hn ⊢
      rw [List.length_cons] at hn
      have hfields := readFields_write hplain ih n rest (by omega)
      obtain ⟨cs, htext, -⟩ := readString_key key
        (':' :: ' ' :: (write float v ++ (writeFields float fields ++ rest)))
      have hskip : skip (writeString key ++
          ':' :: ' ' :: (write float v ++ (writeFields float fields ++ rest))) =
          writeString key ++
            ':' :: ' ' :: (write float v ++ (writeFields float fields ++ rest)) := by
        rw [htext]
        exact skip_of_opens (show Opens '"' by decide) cs
      have hhead : (writeString key ++
          ':' :: ' ' :: (write float v ++ (writeFields float fields ++ rest))).head? ≠
            some '}' := by
        rw [htext]
        exact fun h => absurd (Option.some.inj h) (by decide)
      rw [List.cons_append, List.append_assoc, List.cons_append, List.cons_append,
        List.append_assoc, read_fields (by rwa [hskip]), hskip, hfields, Option.map_some,
        dict_of_distinct distinct]

/-- `json.loads` undoes `json.dumps`. -/
theorem loads_dumps {v : Json} (h : Plain v) : loads (dumps float v) = some v := by
  have hread := @readsBack float _ h (2 * (write float v).length + 1) []
    (by omega) (by rintro c ⟨⟩)
  obtain ⟨c, cs, hwrite, hopens⟩ := @opens_write float _ h
  have hskip : skip (write float v) = write float v := by
    rw [hwrite]
    exact skip_of_opens hopens cs
  rw [List.append_nil] at hread
  rw [loads, dumps, String.toList_ofList, hskip, hread]
  rfl

/-! ## What is written is printable -/

theorem isPrintable_hex4 {n : Nat} {c : Char} (h : c ∈ hex4 n) : isPrintable c = true := by
  have hall : ∀ d < 16, isPrintable d.digitChar = true := by decide
  simp only [hex4, List.mem_cons, List.not_mem_nil, or_false] at h
  rcases h with rfl | rfl | rfl | rfl
  all_goals exact hall _ (Nat.mod_lt _ (by decide))

theorem isPrintable_unicodeEscape {n : Nat} {c : Char} (h : c ∈ unicodeEscape n) :
    isPrintable c = true := by
  rcases List.mem_cons.mp h with rfl | h
  · rfl
  rcases List.mem_cons.mp h with rfl | h
  · rfl
  · exact isPrintable_hex4 h

theorem isPrintable_escape {c d : Char} (h : d ∈ escape c) : isPrintable d = true := by
  unfold escape at h
  split at h
  · next e hshort =>
    have hall : ∀ entry ∈ shortEscapes, isPrintable entry.2 = true := by decide
    simp only [List.mem_cons, List.not_mem_nil, or_false] at h
    rcases h with rfl | rfl
    · rfl
    · exact hall _ (mem_shortEscapes hshort)
  · split at h
    · next hprintable => rwa [List.mem_singleton.mp h]
    split at h
    · exact isPrintable_unicodeEscape h
    · rcases List.mem_append.mp h with h | h
      · exact isPrintable_unicodeEscape h
      · exact isPrintable_unicodeEscape h

theorem isPrintable_writeString {s : String} {c : Char} (h : c ∈ writeString s) :
    isPrintable c = true := by
  rcases List.mem_cons.mp h with rfl | h
  · rfl
  rcases List.mem_append.mp h with h | h
  · obtain ⟨d, -, h⟩ := List.mem_flatMap.mp h
    exact isPrintable_escape h
  · rw [List.mem_singleton.mp h]
    rfl

theorem isPrintable_writeInt {n : Int} {c : Char} (h : c ∈ writeInt n) : isPrintable c = true := by
  have hdigit : ∀ {n : Nat} {c : Char}, c ∈ Nat.toDigits 10 n → isPrintable c = true := by
    intro n c h
    have hc := Nat.isDigit_of_mem_toDigits (by decide) (by decide) h
    obtain ⟨hlow, hhigh⟩ := Char.isDigit_iff_toNat.mp hc
    simp only [Char.reduceToNat] at hlow hhigh
    simp only [isPrintable, Bool.and_eq_true, decide_eq_true_eq]
    omega
  cases n with
  | ofNat n => exact hdigit h
  | negSucc n =>
    rcases List.mem_cons.mp h with rfl | h
    · rfl
    · exact hdigit h

theorem isPrintable_writeItems {vs : List Json}
    (h : ∀ v ∈ vs, ∀ c ∈ write float v, isPrintable c = true) :
    ∀ c ∈ writeItems float vs, isPrintable c = true := by
  induction vs with
  | nil =>
    rw [writeItems]
    exact List.all_eq_true.mp rfl
  | cons v vs ih =>
    rw [writeItems]
    simp only [List.forall_mem_cons, List.mem_append, or_imp, forall_and] at h ⊢
    exact ⟨rfl, rfl, h.1, ih h.2⟩

theorem isPrintable_writeFields {fields : List (String × Json)}
    (h : ∀ field ∈ fields, ∀ c ∈ write float field.2, isPrintable c = true) :
    ∀ c ∈ writeFields float fields, isPrintable c = true := by
  induction fields with
  | nil =>
    rw [writeFields]
    exact List.all_eq_true.mp rfl
  | cons field fields ih =>
    obtain ⟨key, v⟩ := field
    rw [writeFields]
    simp only [List.forall_mem_cons, List.mem_append, or_imp, forall_and] at h ⊢
    exact ⟨rfl, rfl, fun c => isPrintable_writeString, rfl, rfl, h.1, ih h.2⟩

/-- What is written is printable ASCII. -/
theorem isPrintable_write {v : Json} (h : Plain v) : ∀ c ∈ write float v, isPrintable c = true := by
  induction h with
  | null =>
    rw [write]
    exact List.all_eq_true.mp rfl
  | bool b => cases b <;> rw [write] <;> exact List.all_eq_true.mp rfl
  | int n =>
    rw [write]
    exact fun c => isPrintable_writeInt
  | str s =>
    rw [write]
    exact fun c => isPrintable_writeString
  | @arr items _ ih =>
    cases items with
    | nil =>
      rw [write]
      exact List.all_eq_true.mp rfl
    | cons v vs =>
      rw [write]
      simp only [List.forall_mem_cons, List.mem_append, or_imp, forall_and] at ih ⊢
      exact ⟨rfl, ih.1, isPrintable_writeItems ih.2⟩
  | @obj fields _ _ ih =>
    cases fields with
    | nil =>
      rw [write]
      exact List.all_eq_true.mp rfl
    | cons field fields =>
      obtain ⟨key, v⟩ := field
      rw [write]
      simp only [List.forall_mem_cons, List.mem_append, or_imp, forall_and] at ih ⊢
      exact ⟨rfl, fun c => isPrintable_writeString, rfl, rfl, ih.1, isPrintable_writeFields ih.2⟩

end Values

end JsonText
