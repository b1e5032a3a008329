import TenantSaas.Python

/-!
# JSON texts

`json.dumps`, as it is called without options, and `json.loads`.  The readers go by fuel, of
which the length of the text is enough.
-/

namespace JsonText

open TenantSaas

/-! ## Writing -/

/-- `'{0:04x}'.format(n)` -/
def hex4 (n : Nat) : List Char :=
  [(n / 4096 % 16).digitChar, (n / 256 % 16).digitChar, (n / 16 % 16).digitChar,
    (n % 16).digitChar]

def unicodeEscape (n : Nat) : List Char := '\\' :: 'u' :: hex4 n

/-- `ESCAPE_DCT` -/
def shortEscapes : List (Char × Char) :=
  [('"', '"'), ('\\', '\\'), ('\n', 'n'), ('\r', 'r'), ('\t', 't'), ('\x0c', 'f'), ('\x08', 'b')]

def isPrintable (c : Char) : Bool := 32 ≤ c.toNat && c.toNat ≤ 126

/-- `ESCAPE_ASCII`, and what it is replaced by. -/
def escape (c : Char) : List Char :=
  match shortEscapes.lookup c with
  | some e => ['\\', e]
  | none =>
    if isPrintable c then [c]
    else if c.toNat < 65536 then unicodeEscape c.toNat
    else
      let n := c.toNat - 65536
      unicodeEscape (55296 + n / 1024) ++ unicodeEscape (56320 + n % 1024)

/-- `py_encode_basestring_ascii` -/
def writeString (s : String) : List Char := '"' :: (s.toList.flatMap escape ++ ['"'])

def writeInt : Int → List Char
  | .ofNat n => Nat.toDigits 10 n
  | .negSucc n => '-' :: Nat.toDigits 10 (n + 1)

mutual

/-- `json.dumps(value)`; `float` prints floats. -/
def write (float : PyFloat → List Char) : Json → List Char
  | .null => "null".toList
  | .bool true => "true".toList
  | .bool false => "false".toList
  | .int n => writeInt n
  | .float x => float x
  | .str s => writeString s
  | .arr [] => ['[', ']']
  | .arr (v :: vs) => '[' :: (write float v ++ writeItems float vs)
  | .obj [] => ['{', '}']
  | .obj ((key, v) :: fields) =>
    '{' :: (writeString key ++ ':' :: ' ' :: (write float v ++ writeFields float fields))

/-- The items after the first, and the bracket. -/
def writeItems (float : PyFloat → List Char) : List Json → List Char
  | [] => [']']
  | v :: vs => ',' :: ' ' :: (write float v ++ writeItems float vs)

def writeFields (float : PyFloat → List Char) : List (String × Json) → List Char
  | [] => ['}']
  | (key, v) :: fields =>
    ',' :: ' ' :: (writeString key ++ ':' :: ' ' :: (write float v ++ writeFields float fields))

end

def dumps (float : PyFloat → List Char) (v : Json) : String := String.ofList (write float v)

/-! ## Reading -/

def hexDigit? (c : Char) : Option Nat :=
  if '0' ≤ c ∧ c ≤ '9' then some (c.toNat - 48)
  else if 'a' ≤ c ∧ c ≤ 'f' then some (c.toNat - 87)
  else if 'A' ≤ c ∧ c ≤ 'F' then some (c.toNat - 55)
  else none

/-- `_decode_uXXXX` -/
def hexCode (a b c d : Char) : Option Nat := do
  let a ← hexDigit? a
  let b ← hexDigit? b
  let c ← hexDigit? c
  let d ← hexDigit? d
  some (4096 * a + 256 * b + 16 * c + d)

/-- `BACKSLASH` -/
def unescape (c : Char) : Option Char :=
  if c = '/' then some '/' else (shortEscapes.find? fun entry => entry.2 == c).map Prod.fst

def isHigh (n : Nat) : Bool := 55296 ≤ n && n ≤ 56319

def isLow (n : Nat) : Bool := 56320 ≤ n && n ≤ 57343

/-- `py_scanstring`, after the opening quote.  A surrogate that has no other half is no `Char`,
and is not read. -/
def readString : List Char → Option (List Char × List Char)
  | [] => none
  | c :: cs =>
    if c = '"' then some ([], cs)
    else if c = '\\' then
      match cs with
      | [] => none
      | 'u' :: a :: b :: x :: y :: rest =>
        match hexCode a b x y with
        | none => none
        | some n =>
          if isHigh n then
            match rest with
            | '\\' :: 'u' :: a' :: b' :: x' :: y' :: rest' =>
              match hexCode a' b' x' y' with
              | none => none
              | some m =>
                if isLow m then
                  (readString rest').map fun r =>
                    (Char.ofNat (65536 + 1024 * (n - 55296) + (m - 56320)) :: r.1, r.2)
                else none
            | _ => none
          else if isLow n then none
          else (readString rest).map fun r => (Char.ofNat n :: r.1, r.2)
      | e :: rest =>
        match unescape e with
        | none => none
        | some c => (readString rest).map fun r => (c :: r.1, r.2)
    -- a control character is refused, as `strict` is left on
    else if c.toNat < 32 then none
    else (readString cs).map fun r => (c :: r.1, r.2)

/-- `(0|[1-9]\d*)` -/
def readWhole : List Char → Option (List Char × List Char)
  | [] => none
  | c :: cs =>
    if c = '0' then some (['0'], cs)
    else if c.isDigit then some ((c :: cs).takeWhile Char.isDigit, (c :: cs).dropWhile Char.isDigit)
    else none

/-- `(\.\d+)?` -/
def readFraction (cs : List Char) : List Char × List Char :=
  if cs.head? = some '.' ∧ cs.tail.takeWhile Char.isDigit ≠ [] then
    (cs.tail.takeWhile Char.isDigit, cs.tail.dropWhile Char.isDigit)
  else ([], cs)

/-- `([eE][-+]?\d+)?` -/
def readExponent (cs : List Char) : Option Int × List Char :=
  if cs.head? = some 'e' ∨ cs.head? = some 'E' then
    let signed := cs.tail.head? = some '-' ∨ cs.tail.head? = some '+'
    let digits := if signed then cs.tail.tail else cs.tail
    if digits.takeWhile Char.isDigit = [] then (none, cs)
    else
      let n : Int := Nat.ofDigitChars 10 (digits.takeWhile Char.isDigit) 0
      (some (if cs.tail.head? = some '-' then -n else n), digits.dropWhile Char.isDigit)
  else (none, cs)

/-- `NUMBER_RE`; a text with a fraction or an exponent is a float. -/
def readNumber (cs : List Char) : Option (Json × List Char) :=
  let negative := cs.head? == some '-'
  match readWhole (if negative then cs.tail else cs) with
  | none => none
  | some (whole, cs) =>
    let fraction := readFraction cs
    let exponent := readExponent fraction.2
    let n : Int := Nat.ofDigitChars 10 (whole ++ fraction.1) 0
    let signed := if negative then -n else n
    if fraction.1 = [] ∧ exponent.1 = none then some (.int signed, cs)
    else some (.float (.fin (signed * 10 ^ (exponent.1.getD 0 - fraction.1.length))), exponent.2)

/-- The words of `scan_once`. -/
def words : List (List Char × Json) :=
  [("null".toList, .null), ("true".toList, .bool true), ("false".toList, .bool false),
    ("NaN".toList, .float .nan), ("Infinity".toList, .float (.inf false)),
    ("-Infinity".toList, .float (.inf true))]

def readWord (cs : List Char) : Option (Json × List Char) :=
  (words.find? fun word => word.1.isPrefixOf cs).map fun word => (word.2, cs.drop word.1.length)

/-- `WHITESPACE` -/
def skip (cs : List Char) : List Char :=
  cs.dropWhile fun c => c = ' ' ∨ c = '\t' ∨ c = '\n' ∨ c = '\r'

/-- `dict(pairs)` -/
def dict (pairs : List (String × Json)) : List (String × Json) :=
  pairs.foldl (fun entries pair => dictSet pair.1 pair.2 entries) []

mutual

/-- `scan_once` -/
def read : Nat → List Char → Option (Json × List Char)
  | 0, _ => none
  | _ + 1, [] => none
  | n + 1, c :: cs =>
    if c = '"' then (readString cs).map fun r => (.str (String.ofList r.1), r.2)
    else if c = '[' then
      if (skip cs).head? = some ']' then some (.arr [], (skip cs).tail)
      else (readItems n (skip cs)).map fun r => (.arr r.1, r.2)
    else if c = '{' then
      if (skip cs).head? = some '}' then some (.obj [], (skip cs).tail)
      else (readFields n (skip cs)).map fun r => (.obj (dict r.1), r.2)
    else (readWord (c :: cs)).or (readNumber (c :: cs))

/-- The loop of `JSONArray`. -/
def readItems : Nat → List Char → Option (List Json × List Char)
  | 0, _ => none
  | n + 1, cs =>
    match read n cs with
    | none => none
    | some (v, rest) =>
      match skip rest with
      | ']' :: rest => some ([v], rest)
      | ',' :: rest => (readItems n (skip rest)).map fun r => (v :: r.1, r.2)
      | _ => none

/-- The loop of `JSONObject`. -/
def readFields : Nat → List Char → Option (List (String × Json) × List Char)
  | 0, _ => none
  | n + 1, cs =>
    match cs with
    | '"' :: cs =>
      match readString cs with
      | none => none
      | some (key, rest) =>
        match skip rest with
        | ':' :: rest =>
          match read n (skip rest) with
          | none => none
          | some (v, rest) =>
            match skip rest with
            | '}' :: rest => some ([(String.ofList key, v)], rest)
            | ',' :: rest =>
              (readFields n (skip rest)).map fun r => ((String.ofList key, v) :: r.1, r.2)
            | _ => none
        | _ => none
    | _ => none

end

/-- `json.loads(text)` -/
def loads (text : String) : Option Json :=
  match read (2 * text.toList.length + 1) (skip text.toList) with
  | some (v, rest) => if skip rest = [] then some v else none
  | none => none

/-! ## Fuel -/

theorem skip_length_le (cs : List Char) : (skip cs).length ≤ cs.length :=
  (List.dropWhile_suffix _).length_le

/-- What is mapped over a reading does not change what it leaves. -/
theorem length_lt_of_map {α β : Type} {x : Option (α × List Char)} {f : α → β} {n : Nat} {b : β}
    {rest : List Char} (h : (x.map fun r => (f r.1, r.2)) = some (b, rest))
    (hx : ∀ a rest, x = some (a, rest) → rest.length < n) : rest.length < n := by
  obtain ⟨r, hr, heq⟩ := Option.map_eq_some_iff.mp h
  cases heq
  exact hx r.1 r.2 hr

theorem readString_length {cs s rest : List Char} (h : readString cs = some (s, rest)) :
    rest.length < cs.length := by
  fun_induction readString cs generalizing s rest with
  | case2 cs =>
    cases h
    exact Nat.lt_succ_self _
  | case6 a b x y n hn hhigh a' b' x' y' rest' m hm hlow _ ih =>
    have hlt := length_lt_of_map h fun _ _ hr => ih hr
    simp only [List.length_cons]
    omega
  | case10 a b x y rest' n hn hhigh hlow _ ih =>
    have hlt := length_lt_of_map h fun _ _ hr => ih hr
    simp only [List.length_cons]
    omega
  | case12 e rest' hu c hc _ ih =>
    have hlt := length_lt_of_map h fun _ _ hr => ih hr
    simp only [List.length_cons]
    omega
  | case14 c cs hquote hbackslash hcontrol ih =>
    have hlt := length_lt_of_map h fun _ _ hr => ih hr
    simp only [List.length_cons]
    omega
  | _ => cases h

theorem readWord_length {cs rest : List Char} {v : Json} (h : readWord cs = some (v, rest)) :
    rest.length < cs.length := by
  obtain ⟨word, hfind, heq⟩ := Option.map_eq_some_iff.mp h
  cases heq
  have hall : ∀ word ∈ words, 0 < word.1.length := by decide
  have hpos := hall word (List.mem_of_find?_eq_some hfind)
  have hfound := List.find?_some hfind
  have hprefix := (List.isPrefixOf_iff_prefix.mp hfound).length_le
  rw [List.length_drop]
  omega

theorem readWhole_length {cs whole rest : List Char} (h : readWhole cs = some (whole, rest)) :
    rest.length < cs.length := by
  unfold readWhole at h
  split at h
  · cases h
  · next c cs =>
    split at h
    · cases h
      exact Nat.lt_succ_self _
    split at h
    · next hdigit =>
      cases h
      rw [List.dropWhile_cons_of_pos hdigit]
      exact Nat.lt_succ_of_le (List.dropWhile_suffix _).length_le
    · cases h

theorem readFraction_length (cs : List Char) : (readFraction cs).2.length ≤ cs.length := by
  unfold readFraction
  split
  · exact (List.dropWhile_suffix _).length_le.trans (by simp)
  · exact le_rfl

theorem readExponent_length (cs : List Char) : (readExponent cs).2.length ≤ cs.length := by
  unfold readExponent
  dsimp only
  generalize hdigits : (if cs.tail.head? = some '-' ∨ cs.tail.head? = some '+' then cs.tail.tail
    else cs.tail) = digits
  have hle : digits.length ≤ cs.length := by
    rw [← hdigits]
    split
    · simp
      omega
    · simp
  split
  · split
    · exact le_rfl
    · exact (List.dropWhile_suffix _).length_le.trans hle
  · exact le_rfl

theorem readNumber_length {cs rest : List Char} {v : Json} (h : readNumber cs = some (v, rest)) :
    rest.length < cs.length := by
  unfold readNumber at h
  dsimp only at h
  split at h
  · cases h
  · next whole cs' hwhole =>
    have hlt := readWhole_length hwhole
    have hsign : (if (cs.head? == some '-') = true then cs.tail else cs).length ≤ cs.length := by
      split <;> simp
    have hfraction := readFraction_length cs'
    have hexponent := readExponent_length (readFraction cs').2
    split at h
    · cases h
      omega
    · cases h
      omega
/-- What the readers leave of a text. -/
structure Leaves (n : Nat) : Prop where
  read : ∀ cs v rest, read n cs = some (v, rest) → rest.length < cs.length
  items : ∀ cs vs rest, readItems n cs = some (vs, rest) → rest.length < cs.length
  fields : ∀ cs pairs rest, readFields n cs = some (pairs, rest) → rest.length < cs.length

theorem leaves (n : Nat) : Leaves n := by
  induction n with
  | zero =>
    exact ⟨fun _ _ _ h => (by cases h), fun _ _ _ h => (by cases h),
      fun _ _ _ h => (by cases h)⟩
  | succ n ih =>
    refine ⟨fun cs v rest h => ?_, fun cs vs rest h => ?_, fun cs pairs rest h => ?_⟩
    · cases cs with
      | nil => cases h
      | cons c cs =>
        have hskip := skip_length_le cs
        rw [List.length_cons]
        simp only [read] at h
        split at h
        · have hlt := length_lt_of_map (f := fun s => Json.str (String.ofList s)) h
            fun _ _ => readString_length
          omega
        split at h
        · split at h
          · cases h
            rw [List.length_tail]
            omega
          · have hlt := length_lt_of_map h (ih.items _)
            omega
        split at h
        · split at h
          · cases h
            rw [List.length_tail]
            omega
          · have hlt := length_lt_of_map (f := fun pairs => Json.obj (dict pairs)) h (ih.fields _)
            omega
        · rcases Option.or_eq_some_iff.mp h with h | ⟨-, h⟩
          · exact readWord_length h
          · exact readNumber_length h
    · rw [readItems] at h
      split at h
      · cases h
      · next v rest' hread =>
        have hlt := ih.read _ _ _ hread
        have hskip := skip_length_le rest'
        split at h
        · next rest'' heq =>
          cases h
          rw [heq, List.length_cons] at hskip
          omega
        · next rest'' heq =>
          rw [heq, List.length_cons] at hskip
          have hskip' := skip_length_le rest''
          have hlt' := length_lt_of_map h (ih.items _)
          omega
        · cases h
    · rw [readFields.eq_def] at h
      dsimp only at h
      split at h
      · next cs =>
        split at h
        · cases h
        · next key rest₁ hkey =>
          have hlt := readString_length hkey
          have hskip₁ := skip_length_le rest₁
          rw [List.length_cons]
          split at h
          · next rest₂ heq =>
            rw [heq, List.length_cons] at hskip₁
            have hskip₂ := skip_length_le rest₂
            split at h
            · cases h
            · next v rest₃ hread =>
              have hlt' := ih.read _ _ _ hread
              have hskip₃ := skip_length_le rest₃
              split at h
              · next tail heq' =>
                cases h
                rw [heq', List.length_cons] at hskip₃
                omega
              · next tail heq' =>
                rw [heq', List.length_cons] at hskip₃
                have hskip := skip_length_le tail
                have hlt'' := length_lt_of_map (f := fun pairs => (String.ofList key, v) :: pairs) h
                  (ih.fields _)
                omega
              · cases h
          · cases h
      · cases h

/-- The readers give the same with more fuel. -/
structure Enough (n m : Nat) : Prop where
  read : ∀ cs : List Char, 2 * cs.length < n → read m cs = read n cs
  items : ∀ cs : List Char, 2 * cs.length + 1 < n → readItems m cs = readItems n cs
  fields : ∀ cs : List Char, 2 * cs.length + 1 < n → readFields m cs = readFields n cs

theorem enough {n m : Nat} (h : n ≤ m) : Enough n m := by
  induction n generalizing m with
  | zero => exact ⟨fun _ h => (by cases h), fun _ h => (by cases h), fun _ h => (by cases h)⟩
  | succ n ih =>
    obtain ⟨m, rfl⟩ := Nat.exists_eq_succ_of_ne_zero (show m ≠ 0 by omega)
    have ih := ih (Nat.le_of_succ_le_succ h)
    refine ⟨fun cs hcs => ?_, fun cs hcs => ?_, fun cs hcs => ?_⟩
    · cases cs with
      | nil => rfl
      | cons c cs =>
        have hskip := skip_length_le cs
        rw [List.length_cons] at hcs
        simp only [read, ih.items (skip cs) (by omega), ih.fields (skip cs) (by omega)]
    · rw [readItems, readItems, ih.read cs (by omega)]
      split
      · rfl
      · next v rest hread =>
        have hlt := (leaves n).read _ _ _ hread
        have hskip := skip_length_le rest
        split
        · rfl
        · next rest' heq =>
          rw [heq, List.length_cons] at hskip
          have hskip' := skip_length_le rest'
          rw [ih.items (skip rest') (by omega)]
        · rfl
    · rw [readFields.eq_def, readFields.eq_def n.succ]
      dsimp only
      split
      · next cs =>
        rw [List.length_cons] at hcs
        split
        · rfl
        · next key rest₁ hkey =>
          have hlt := readString_length hkey
          have hskip₁ := skip_length_le rest₁
          split
          · next rest₂ heq =>
            rw [heq, List.length_cons] at hskip₁
            have hskip₂ := skip_length_le rest₂
            rw [ih.read (skip rest₂) (by omega)]
            split
            · rfl
            · next v rest₃ hread =>
              have hlt' := (leaves n).read _ _ _ hread
              have hskip₃ := skip_length_le rest₃
              split
              · rfl
              · next tail heq' =>
                rw [heq', List.length_cons] at hskip₃
                have hskip := skip_length_le tail
                rw [ih.fields (skip tail) (by omega)]
              · rfl
          · rfl
      · rfl

/-- No text is refused for want of fuel. -/
theorem loads_of_fuel (text : String) {n : Nat} (h : 2 * text.toList.length < n) :
    loads text = match read n (skip text.toList) with
      | some (v, rest) => if skip rest = [] then some v else none
      | none => none := by
  have hskip := skip_length_le text.toList
  have hread := (enough h).read (skip text.toList) (by omega)
  rw [hread]
  rfl

end JsonText
