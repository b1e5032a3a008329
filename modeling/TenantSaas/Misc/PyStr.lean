import Mathlib.Data.List.TakeWhile
import Mathlib.Tactic.Ring

/-!
# Python strings

The methods of Python's `str` that programs use to build and take apart keys, on
character lists.
-/

namespace PyStr

/-- The characters `str.strip` and `str.isspace` treat as white space. -/
def isSpace (c : Char) : Bool :=
  let n := c.toNat
  (9 ≤ n && n ≤ 13) || (28 ≤ n && n ≤ 32) || n == 133 || n == 160 || n == 5760 ||
    (8192 ≤ n && n ≤ 8202) || n == 8232 || n == 8233 || n == 8239 || n == 8287 || n == 12288

/-- `s.strip()` -/
def stripChars (s : List Char) : List Char :=
  ((s.dropWhile isSpace).reverse.dropWhile isSpace).reverse

def strip (s : String) : String := String.ofList (stripChars s.toList)

/-- `s.strip(chars)` -/
def stripOf (chars : List Char) (s : String) : String :=
  String.ofList ((s.toList.dropWhile chars.contains).reverse.dropWhile chars.contains).reverse

/-- `s.split(sep)` for a one-character `sep`. -/
def split (s : String) (sep : Char) : List String := (s.toList.splitOn sep).map String.ofList

def isAscii (s : String) : Bool := s.toList.all fun c => decide (c.toNat < 128)

/-- `s.startswith(p)` -/
def startswith (s p : String) : Bool := p.toList.isPrefixOf s.toList

/-- `s[:n]` -/
def take (s : String) (n : Nat) : String := String.ofList (s.toList.take n)

/-- `s[n:]` -/
def drop (s : String) (n : Nat) : String := String.ofList (s.toList.drop n)

/-- `p in s` -/
def occursIn (p : List Char) : List Char → Bool
  | [] => p.isEmpty
  | c :: cs => p.isPrefixOf (c :: cs) || occursIn p cs

def contains (s p : String) : Bool := occursIn p.toList s.toList

/-- `s.replace(old, new)` for a non-empty `old`: occurrences are replaced from the left
and do not overlap; `skip` characters belong to an occurrence already replaced. -/
def replaceChars (old new : List Char) : Nat → List Char → List Char
  | _, [] => []
  | skip + 1, _ :: cs => replaceChars old new skip cs
  | 0, c :: cs =>
    if old.isPrefixOf (c :: cs) then new ++ replaceChars old new (old.length - 1) cs
    else c :: replaceChars old new 0 cs

def replace (s old new : String) : String :=
  String.ofList (replaceChars old.toList new.toList 0 s.toList)

/-- `s.split(sep, 1)` for a one-character `sep`, when it occurs. -/
def splitOnce (sep : Char) : List Char → Option (List Char × List Char)
  | [] => none
  | c :: cs =>
    if c = sep then some ([], cs) else (splitOnce sep cs).map fun p => (c :: p.1, p.2)

/-- The digit character of `n % 10`. -/
def digitChar (n : Nat) : Char := Char.ofNat (48 + n % 10)

/-- `f"{n:0k}"` for `n < 10 ^ k`: `k` decimal digits. -/
def pad : Nat → Nat → List Char
  | 0, _ => []
  | k + 1, n => digitChar (n / 10 ^ k) :: pad k n

/-- The value of an ASCII digit. -/
def digit? (c : Char) : Option Nat :=
  if 48 ≤ c.toNat ∧ c.toNat ≤ 57 then some (c.toNat - 48) else none

/-- Read exactly `k` ASCII digits. -/
def parseDigits : Nat → Nat → List Char → Option (Nat × List Char)
  | 0, acc, cs => some (acc, cs)
  | _ + 1, _, [] => none
  | k + 1, acc, c :: cs =>
    match digit? c with
    | none => none
    | some d => parseDigits k (acc * 10 + d) cs

/-- The first code point of each run of ten decimal digits in Unicode 15.0, the version of
CPython 3.12. -/
def decimalZeros : List Nat :=
  [48, 1632, 1776, 1984, 2406, 2534, 2662, 2790, 2918, 3046, 3174, 3302, 3430, 3558, 3664, 3792,
    3872, 4160, 4240, 6112, 6160, 6470, 6608, 6784, 6800, 6992, 7088, 7232, 7248, 42528, 43216,
    43264, 43472, 43504, 43600, 44016, 65296, 66720, 68912, 69734, 69872, 69942, 70096, 70384,
    70736, 70864, 71248, 71360, 71472, 71904, 72016, 72784, 73040, 73120, 73552, 92768, 92864,
    93008, 120782, 120792, 120802, 120812, 120822, 123200, 123632, 124144, 125264, 130032]

/-- `unicodedata.decimal(c)` -/
def decimal? (c : Char) : Option Nat :=
  (decimalZeros.find? fun first => decide (first ≤ c.toNat) && decide (c.toNat < first + 10)).map
    fun first => c.toNat - first

/-- `\d` in a regular expression over `str`. -/
def isDecimal (c : Char) : Bool := (decimal? c).isSome

/-- The white space `int` skips, which leaves out the separators U+001C to U+001F. -/
def isIntSpace (c : Char) : Bool := isSpace c && !(28 ≤ c.toNat && c.toNat ≤ 31)

/-- `sys.get_int_max_str_digits()`, unless it was set. -/
def maxStrDigits : Nat := 4300

/-- The digits `int` takes: single underscores may stand between them, and zeros in front
count towards the limit. -/
def intDigits (cs : List Char) : Option Nat :=
  let groups := cs.splitOn '_'
  if groups.any List.isEmpty || decide (maxStrDigits < groups.flatten.length) then none
  else groups.flatten.foldlM (fun n c => (decimal? c).map fun d => 10 * n + d) 0

/-! ## Prefixes and parts -/

theorem occursIn_iff_infix {p s : List Char} : occursIn p s = true ↔ p <:+: s := by
  induction s with
  | nil => rw [occursIn, List.isEmpty_iff, List.infix_nil]
  | cons c s ih =>
    rw [occursIn, Bool.or_eq_true, List.isPrefixOf_iff_prefix, ih, List.infix_cons_iff]

@[simp] theorem startswith_append (p s : String) : startswith (p ++ s) p = true := by
  rw [startswith, String.toList_append, List.isPrefixOf_iff_prefix]
  exact List.prefix_append _ _

@[simp] theorem drop_append (p s : String) : drop (p ++ s) p.length = s := by
  rw [drop, String.toList_append, ← String.length_toList, List.drop_left, String.ofList_toList]

/-! ## Stripping -/

section Strip

variable {p : Char → Bool}

theorem dropWhile_of_head? {xs : List Char} (h : ∀ c ∈ xs.head?, p c = false) :
    xs.dropWhile p = xs := by
  cases xs with
  | nil => rfl
  | cons x xs => exact List.dropWhile_cons_of_neg (by simpa using h x rfl)

/-- Nothing is taken from a text whose ends stay. -/
theorem trim_of_ends {xs : List Char} (hhead : ∀ c ∈ xs.head?, p c = false)
    (hlast : ∀ c ∈ xs.getLast?, p c = false) :
    ((xs.dropWhile p).reverse.dropWhile p).reverse = xs := by
  have hrev : ∀ c ∈ xs.reverse.head?, p c = false := by
    rw [List.head?_reverse]
    exact hlast
  rw [dropWhile_of_head? hhead, dropWhile_of_head? hrev, List.reverse_reverse]

/-- What stands around a text whose ends stay is taken away. -/
theorem trim_wrapped {before xs after : List Char} (hbefore : ∀ c ∈ before, p c = true)
    (hafter : ∀ c ∈ after, p c = true) (hhead : ∀ c ∈ xs.head?, p c = false)
    (hlast : ∀ c ∈ xs.getLast?, p c = false) :
    (((before ++ xs ++ after).dropWhile p).reverse.dropWhile p).reverse = xs := by
  rw [List.append_assoc, List.dropWhile_append_of_pos hbefore]
  cases xs with
  | nil =>
    rw [List.nil_append, List.dropWhile_eq_nil_iff.mpr hafter]
    rfl
  | cons x xs =>
    have hend : ∀ c ∈ (x :: xs).reverse.head?, p c = false := by
      rw [List.head?_reverse]
      exact hlast
    rw [List.cons_append, List.dropWhile_cons_of_neg (by simp [hhead x rfl]), ← List.cons_append,
      List.reverse_append, List.dropWhile_append_of_pos (by simpa using hafter),
      dropWhile_of_head? hend, List.reverse_reverse]

theorem head?_dropWhile {xs : List Char} {c : Char} (h : c ∈ (xs.dropWhile p).head?) :
    p c = false := by
  have hnot := List.head?_dropWhile_not p xs
  rw [Option.mem_def.mp h] at hnot
  exact hnot

/-- A stripped text neither begins nor ends with white space. -/
theorem stripChars_ends {xs : List Char} {c : Char}
    (h : c ∈ (stripChars xs).head? ∨ c ∈ (stripChars xs).getLast?) : isSpace c = false := by
  rcases h with h | h
  · obtain ⟨rest, hrest⟩ := List.dropWhile_suffix isSpace (l := (xs.dropWhile isSpace).reverse)
    have hfront : stripChars xs ++ rest.reverse = xs.dropWhile isSpace := by
      rw [stripChars, ← List.reverse_append, hrest, List.reverse_reverse]
    apply @head?_dropWhile isSpace xs
    rw [← hfront, List.head?_append, Option.mem_def.mp h]
    rfl
  · rw [stripChars, List.getLast?_reverse] at h
    exact head?_dropWhile h

@[simp] theorem stripChars_stripChars (xs : List Char) :
    stripChars (stripChars xs) = stripChars xs :=
  trim_of_ends (fun _ hc => stripChars_ends (.inl hc)) fun _ hc => stripChars_ends (.inr hc)

@[simp] theorem strip_strip (s : String) : strip (strip s) = strip s := by
  rw [strip, strip, String.toList_ofList, stripChars_stripChars]

/-- White space around a text that has none at its ends. -/
theorem strip_padded {before text after : String} (hbefore : ∀ c ∈ before.toList, isSpace c = true)
    (hafter : ∀ c ∈ after.toList, isSpace c = true)
    (hhead : ∀ c ∈ text.toList.head?, isSpace c = false)
    (hlast : ∀ c ∈ text.toList.getLast?, isSpace c = false) :
    strip (before ++ text ++ after) = text := by
  rw [strip, String.toList_append, String.toList_append, stripChars,
    trim_wrapped hbefore hafter hhead hlast, String.ofList_toList]

end Strip

/-! ## Replacing and splitting -/

theorem replaceChars_skip (old new xs ys : List Char) :
    replaceChars old new xs.length (xs ++ ys) = replaceChars old new 0 ys := by
  induction xs with
  | nil => rfl
  | cons x xs ih => simpa [replaceChars] using ih

/-- Text that does not contain the first character of `old` is left alone. -/
theorem replaceChars_of_notMem (o : Char) (old new xs ys : List Char) (h : o ∉ xs) :
    replaceChars (o :: old) new 0 (xs ++ ys) = xs ++ replaceChars (o :: old) new 0 ys := by
  induction xs with
  | nil => rfl
  | cons x xs ih =>
    have hx : ¬ o = x := fun e => h (e ▸ List.mem_cons_self)
    have hxs : o ∉ xs := fun m => h (List.mem_cons_of_mem _ m)
    simp [replaceChars, hx, ih hxs]

theorem replaceChars_occurrence (o : Char) (old new ys : List Char) :
    replaceChars (o :: old) new 0 (o :: old ++ ys) = new ++ replaceChars (o :: old) new 0 ys := by
  have hp : (o :: old).isPrefixOf (o :: (old ++ ys)) = true := by simp
  rw [List.cons_append, replaceChars, if_pos hp, List.length_cons, Nat.add_sub_cancel,
    replaceChars_skip]

/-- The only occurrence of `old` stands at the end. -/
theorem replaceChars_suffix (o : Char) (old new xs : List Char) (h : o ∉ xs) :
    replaceChars (o :: old) new 0 (xs ++ o :: old) = xs ++ new := by
  have hend := replaceChars_occurrence o old new []
  rw [List.append_nil] at hend
  rw [replaceChars_of_notMem o old new xs _ h, hend, replaceChars, List.append_nil]

/-- `s.replace(c, "")` -/
theorem replaceChars_remove (c : Char) (xs : List Char) :
    replaceChars [c] [] 0 xs = xs.filter (· != c) := by
  induction xs with
  | nil => rfl
  | cons x xs ih =>
    unfold replaceChars
    by_cases hx : c = x
    · subst hx
      simpa using ih
    · simp [hx, Ne.symm hx, ih]

theorem filter_intercalate (p : Char → Bool) (sep : List Char) (items : List (List Char)) :
    (sep.intercalate items).filter p = (sep.filter p).intercalate (items.map (List.filter p)) := by
  induction items with
  | nil => rfl
  | cons item items ih =>
    cases items with
    | nil => simp
    | cons item' items =>
      rw [List.intercalate_cons_cons, List.filter_append, List.filter_append, ih, List.map_cons,
        List.map_cons, List.map_cons, List.intercalate_cons_cons]

theorem mem_intercalate {sep items} {c : Char} (h : c ∈ List.intercalate sep items) :
    c ∈ sep ∨ ∃ item ∈ items, c ∈ item := by
  induction items with
  | nil => cases h
  | cons item items ih =>
    cases items with
    | nil => exact .inr ⟨item, by simp, by simpa using h⟩
    | cons item' items =>
      rw [List.intercalate_cons_cons, List.mem_append, List.mem_append] at h
      rcases h with (h | h) | h
      · exact .inr ⟨item, by simp, h⟩
      · exact .inl h
      · refine (ih h).imp_right ?_
        intro h'
        obtain ⟨found, hfound, hc⟩ := h'
        exact ⟨found, List.mem_cons_of_mem _ hfound, hc⟩

/-- The first and the last character come from the items or from a separator. -/
theorem ends_intercalate {sep : Char} {items : List (List Char)} {c : Char}
    (h : c ∈ ([sep].intercalate items).head? ∨ c ∈ ([sep].intercalate items).getLast?) :
    c = sep ∨ ∃ item ∈ items, c ∈ item.head? ∨ c ∈ item.getLast? := by
  induction items with
  | nil => simp at h
  | cons item items ih =>
    cases items with
    | nil => exact .inr ⟨item, by simp, by simpa using h⟩
    | cons item' items =>
      rw [List.intercalate_cons_cons, List.append_assoc, List.singleton_append] at h
      rcases h with h | h
      · rw [List.head?_append, List.head?_cons] at h
        cases hitem : item.head? with
        | none =>
          rw [hitem] at h
          exact .inl (by simpa using h.symm)
        | some first =>
          rw [hitem] at h
          exact .inr ⟨item, by simp, .inl (hitem.trans h)⟩
      · rw [List.getLast?_append, List.getLast?_cons] at h
        cases hrest : ([sep].intercalate (item' :: items)).getLast? with
        | none =>
          rw [hrest] at h
          exact .inl (by simpa using h.symm)
        | some last =>
          rw [hrest] at h
          refine (ih (.inr (hrest.trans h))).imp_right ?_
          intro h'
          obtain ⟨found, hfound, hc⟩ := h'
          exact ⟨found, List.mem_cons_of_mem _ hfound, hc⟩

/-- Where no item is empty, the ends belong to items, whatever the separator is. -/
theorem head?_intercalate {sep : List Char} {items : List (List Char)} {c : Char}
    (hitems : ∀ item ∈ items, item ≠ []) (h : c ∈ (sep.intercalate items).head?) :
    ∃ item ∈ items, c ∈ item.head? := by
  cases items with
  | nil => simp at h
  | cons item items =>
    refine ⟨item, List.mem_cons_self, ?_⟩
    cases items with
    | nil => simpa using h
    | cons item' items =>
      obtain ⟨x, xs, hitem⟩ := List.exists_cons_of_ne_nil (hitems item List.mem_cons_self)
      rw [List.intercalate_cons_cons, hitem] at h
      rwa [hitem]

theorem getLast?_intercalate {sep : List Char} {items : List (List Char)} {c : Char}
    (hitems : ∀ item ∈ items, item ≠ []) (h : c ∈ (sep.intercalate items).getLast?) :
    ∃ item ∈ items, c ∈ item.getLast? := by
  induction items with
  | nil => simp at h
  | cons item items ih =>
    cases items with
    | nil => exact ⟨item, List.mem_cons_self, by simpa using h⟩
    | cons item' items =>
      have hrest : sep.intercalate (item' :: items) ≠ [] := by
        have hitem' := hitems item' (by simp)
        cases items with
        | nil => simpa using hitem'
        | cons _ _ => simp [List.intercalate_cons_cons, hitem']
      rw [List.intercalate_cons_cons, List.getLast?_append,
        List.getLast?_eq_some_getLast hrest, Option.some_or, ← List.getLast?_eq_some_getLast] at h
      obtain ⟨found, hfound, hc⟩ := ih (fun i hi => hitems i (List.mem_cons_of_mem _ hi)) h
      exact ⟨found, List.mem_cons_of_mem _ hfound, hc⟩

/-- The items of a list written with a space after each comma, as a split at the commas
finds them. -/
def spaced : List (List Char) → List (List Char)
  | [] => []
  | item :: items => item :: items.map (List.cons ' ')

theorem intercalate_spaced (items : List (List Char)) :
    [',', ' '].intercalate items = [','].intercalate (spaced items) := by
  induction items with
  | nil => rfl
  | cons item items ih =>
    cases items with
    | nil => rfl
    | cons item' items =>
      rw [List.intercalate_cons_cons, ih, spaced, spaced, List.map_cons,
        List.intercalate_cons_cons]
      cases items <;> simp [List.intercalate_cons_cons]

theorem map_spaced {α : Type} {f : List Char → α} (hf : ∀ item, f (' ' :: item) = f item)
    (items : List (List Char)) : (spaced items).map f = items.map f := by
  cases items with
  | nil => rfl
  | cons item items =>
    rw [spaced, List.map_cons, List.map_cons, List.map_map]
    exact congrArg (List.cons _) (List.map_congr_left fun item _ => hf item)

theorem mem_spaced {items : List (List Char)} {item : List Char} (h : item ∈ spaced items) :
    item ∈ items ∨ ∃ found ∈ items, item = ' ' :: found := by
  cases items with
  | nil => cases h
  | cons first items =>
    rcases List.mem_cons.mp h with rfl | h
    · exact .inl List.mem_cons_self
    · obtain ⟨found, hfound, rfl⟩ := List.mem_map.mp h
      exact .inr ⟨found, List.mem_cons_of_mem _ hfound, rfl⟩

theorem splitOnce_append (sep : Char) (xs ys : List Char) (h : sep ∉ xs) :
    splitOnce sep (xs ++ sep :: ys) = some (xs, ys) := by
  induction xs with
  | nil => simp [splitOnce]
  | cons x xs ih =>
    have hx : ¬ x = sep := fun e => h (e ▸ List.mem_cons_self)
    have hxs : sep ∉ xs := fun m => h (List.mem_cons_of_mem _ m)
    simp [splitOnce, hx, ih hxs]

/-- A separator-free head is determined by the text: two texts that begin with one, up to
their first separator, begin with the same one. -/
theorem prefix_sep_inj (sep : Char) {xs ys rest : List Char} (hx : sep ∉ xs) (hy : sep ∉ ys) :
    (ys ++ [sep]) <+: (xs ++ sep :: rest) ↔ ys = xs := by
  constructor
  · intro h'
    obtain ⟨tail, h⟩ := h'
    rw [List.append_assoc, List.singleton_append] at h
    have hl := splitOnce_append sep ys tail hy
    rw [h, splitOnce_append sep xs rest hx] at hl
    exact (congrArg Prod.fst (Option.some.inj hl)).symm
  · intro heq
    subst heq
    exact ⟨rest, by simp⟩

/-! ## Digits -/

@[simp] theorem pad_length (k n : Nat) : (pad k n).length = k := by
  induction k with
  | zero => rfl
  | succ k ih => rw [pad, List.length_cons, ih]

theorem digitChar_toNat (n : Nat) : (digitChar n).toNat = 48 + n % 10 := by
  have h : ∀ d < 10, (Char.ofNat (48 + d)).toNat = 48 + d := by decide
  exact h _ (Nat.mod_lt _ (by decide))

theorem digitChar_ne {c : Char} (hc : c.toNat < 48 ∨ 57 < c.toNat) (n : Nat) : digitChar n ≠ c := by
  intro h
  have := digitChar_toNat n
  rw [h] at this
  omega

theorem digit?_digitChar (n : Nat) : digit? (digitChar n) = some (n % 10) := by
  have h : n % 10 < 10 := Nat.mod_lt _ (by decide)
  rw [digit?, digitChar_toNat, if_pos (by omega)]
  congr 1
  omega

theorem toNat_of_mem_pad {k n : Nat} {c : Char} (h : c ∈ pad k n) :
    48 ≤ c.toNat ∧ c.toNat ≤ 57 := by
  induction k with
  | zero => simp [pad] at h
  | succ k ih =>
    rcases List.mem_cons.mp h with rfl | h
    · rw [digitChar_toNat]
      omega
    · exact ih h

/-- A character that is not a digit does not occur in a padded number. -/
theorem notMem_pad {c : Char} (hc : c.toNat < 48 ∨ 57 < c.toNat) (k n : Nat) : c ∉ pad k n := by
  intro h
  have := toNat_of_mem_pad h
  omega

theorem parseDigits_pad (k acc n : Nat) (rest : List Char) :
    parseDigits k acc (pad k n ++ rest) = some (acc * 10 ^ k + n % 10 ^ k, rest) := by
  induction k generalizing acc with
  | zero => simp [parseDigits, pad, Nat.mod_one]
  | succ k ih =>
    have hsplit : n % 10 ^ (k + 1) = n / 10 ^ k % 10 * 10 ^ k + n % 10 ^ k := by
      rw [pow_succ, Nat.mod_mul, Nat.mul_comm (10 ^ k), Nat.add_comm]
    simp only [pad, List.cons_append, parseDigits, digit?_digitChar]
    rw [ih, hsplit]
    congr 2
    ring

theorem parseDigits_pad_of_lt {k n : Nat} (h : n < 10 ^ k) (rest : List Char) :
    parseDigits k 0 (pad k n ++ rest) = some (n, rest) := by
  rw [parseDigits_pad, Nat.zero_mul, Nat.zero_add, Nat.mod_eq_of_lt h]

theorem pad_inj {k n m : Nat} (hn : n < 10 ^ k) (hm : m < 10 ^ k) (h : pad k n = pad k m) :
    n = m := by
  have h1 := parseDigits_pad_of_lt hn []
  have h2 := parseDigits_pad_of_lt hm []
  rw [h, h2] at h1
  exact (congrArg Prod.fst (Option.some.inj h1)).symm

/-! ## Order -/

/-- Of texts that begin with parts of one length, the parts are compared first. -/
theorem append_lt_append_iff {xs ys as bs : List Char} (h : xs.length = ys.length) :
    xs ++ as < ys ++ bs ↔ xs < ys ∨ xs = ys ∧ as < bs := by
  induction xs generalizing ys with
  | nil =>
    obtain rfl := List.length_eq_zero_iff.mp h.symm
    simp
  | cons x xs ih =>
    cases ys with
    | nil => simp at h
    | cons y ys =>
      rw [List.cons_append, List.cons_append, List.cons_lt_cons_iff, List.cons_lt_cons_iff,
        ih (Nat.succ.inj h), List.cons.injEq]
      tauto

theorem digitChar_lt_iff (n m : Nat) : digitChar n < digitChar m ↔ n % 10 < m % 10 := by
  have hlt : digitChar n < digitChar m ↔ (digitChar n).toNat < (digitChar m).toNat := Iff.rfl
  rw [hlt, digitChar_toNat, digitChar_toNat]
  omega

theorem digitChar_eq_iff (n m : Nat) : digitChar n = digitChar m ↔ n % 10 = m % 10 := by
  constructor
  · intro h
    have hcode := congrArg Char.toNat h
    rw [digitChar_toNat, digitChar_toNat] at hcode
    omega
  · intro h
    rw [digitChar, digitChar, h]

/-- Numbers written with the same number of digits are ordered as texts. -/
theorem pad_lt_pad_iff (k n m : Nat) : pad k n < pad k m ↔ n % 10 ^ k < m % 10 ^ k := by
  induction k with
  | zero => simp [pad, Nat.mod_one]
  | succ k ih =>
    have hsplit : ∀ n, n % 10 ^ (k + 1) = n / 10 ^ k % 10 * 10 ^ k + n % 10 ^ k := by
      intro n
      rw [pow_succ, Nat.mod_mul, Nat.mul_comm (10 ^ k), Nat.add_comm]
    have hn : n % 10 ^ k < 10 ^ k := Nat.mod_lt _ (Nat.pow_pos (by decide))
    have hm : m % 10 ^ k < 10 ^ k := Nat.mod_lt _ (Nat.pow_pos (by decide))
    rw [pad, pad, List.cons_lt_cons_iff, digitChar_lt_iff, digitChar_eq_iff, ih, hsplit, hsplit]
    generalize n / 10 ^ k % 10 = a, m / 10 ^ k % 10 = b
    generalize n % 10 ^ k = r at *
    generalize m % 10 ^ k = r' at *
    constructor
    · intro h
      rcases h with hlt | ⟨rfl, hlt⟩
      · have hstep : (a + 1) * 10 ^ k ≤ b * 10 ^ k := Nat.mul_le_mul_right _ hlt
        rw [Nat.add_mul, Nat.one_mul] at hstep
        omega
      · omega
    · intro h
      rcases Nat.lt_trichotomy a b with hlt | rfl | hgt
      · exact .inl hlt
      · exact .inr ⟨rfl, by omega⟩
      · have hstep : (b + 1) * 10 ^ k ≤ a * 10 ^ k := Nat.mul_le_mul_right _ hgt
        rw [Nat.add_mul, Nat.one_mul] at hstep
        omega

end PyStr
