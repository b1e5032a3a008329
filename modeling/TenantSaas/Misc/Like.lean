import Mathlib.Data.List.Infix

/-!
# The `LIKE` operator of SQL

Patterns with `%` for any text, `_` for any character and a backslash before a character that
stands for itself, compared with the case of the ASCII letters left out.
-/

namespace Like

inductive Token where
  | any
  | one
  | lit (c : Char)
  deriving DecidableEq, Repr

/-- The characters with a meaning of their own in a pattern. -/
def isMeta (c : Char) : Bool := c == '%' || c == '_' || c == '\\'

/-- A backslash at the very end stands for itself. -/
def tokens : List Char → List Token
  | [] => []
  | '\\' :: c :: pattern => .lit c :: tokens pattern
  | c :: pattern =>
    (if c = '%' then .any else if c = '_' then .one else .lit c) :: tokens pattern

def matchTokens : List Token → List Char → Bool
  | [], text => text.isEmpty
  | .any :: ts, text => text.tails.any fun rest => matchTokens ts rest
  | .one :: _, [] => false
  | .one :: ts, _ :: text => matchTokens ts text
  | .lit _ :: _, [] => false
  | .lit c :: ts, d :: text => c.toLower == d.toLower && matchTokens ts text

/-- `text LIKE pattern` -/
def isLike (text pattern : List Char) : Bool := matchTokens (tokens pattern) text

section Tokens

variable {c : Char} {pattern : List Char}

@[simp] theorem tokens_nil : tokens [] = [] := rfl

@[simp] theorem tokens_percent (pattern : List Char) :
    tokens ('%' :: pattern) = .any :: tokens pattern := by
  simp [tokens]

@[simp] theorem tokens_underscore (pattern : List Char) :
    tokens ('_' :: pattern) = .one :: tokens pattern := by
  simp [tokens]

theorem tokens_lit (h : isMeta c = false) :
    tokens (c :: pattern) = .lit c :: tokens pattern := by
  simp only [isMeta, Bool.or_eq_false_iff, beq_eq_false_iff_ne] at h
  obtain ⟨⟨hpercent, hunderscore⟩, hslash⟩ := h
  rw [tokens, if_neg hpercent, if_neg hunderscore]
  intro d rest heq
  exact absurd heq hslash

theorem tokens_append_percent (h : pattern.any isMeta = false) :
    tokens (pattern ++ ['%']) = pattern.map Token.lit ++ [.any] := by
  induction pattern with
  | nil => simp
  | cons c pattern ih =>
    rw [List.any_cons, Bool.or_eq_false_iff] at h
    rw [List.cons_append, tokens_lit h.1, ih h.2, List.map_cons, List.cons_append]

end Tokens

section Match

variable {ts : List Token} {text : List Char}

@[simp] theorem matchTokens_any :
    matchTokens (.any :: ts) text = text.tails.any fun rest => matchTokens ts rest := by
  rw [matchTokens]

@[simp] theorem matchTokens_lit {c d : Char} :
    matchTokens (.lit c :: ts) (d :: text) = (c.toLower == d.toLower && matchTokens ts text) := by
  rw [matchTokens]

theorem matchTokens_any_of {rest : List Char} (hrest : rest <:+ text)
    (h : matchTokens ts rest = true) : matchTokens (.any :: ts) text = true := by
  rw [matchTokens_any, List.any_eq_true]
  exact ⟨rest, (List.mem_tails _ _).mpr hrest, h⟩

/-- A pattern that ends in `%` asks for a prefix. -/
theorem matchTokens_front (s : List Char) :
    matchTokens (s.map Token.lit ++ [.any]) text = true ↔
      s.map Char.toLower <+: text.map Char.toLower := by
  induction s generalizing text with
  | nil =>
    refine ⟨fun _ => List.nil_prefix, fun _ => ?_⟩
    exact matchTokens_any_of (List.nil_suffix) rfl
  | cons c s ih =>
    cases text with
    | nil => simp [matchTokens]
    | cons d text =>
      rw [List.map_cons, List.cons_append, matchTokens_lit, Bool.and_eq_true, beq_iff_eq, ih,
        List.map_cons, List.map_cons, List.cons_prefix_cons]

/-- Between two `%` a text without pattern characters is searched for. -/
theorem isLike_search {s : List Char} (h : s.any isMeta = false) :
    isLike text ('%' :: (s ++ ['%'])) = true ↔
      s.map Char.toLower <:+: text.map Char.toLower := by
  rw [isLike, tokens_percent, tokens_append_percent h, matchTokens_any, List.any_eq_true,
    List.infix_iff_prefix_suffix]
  constructor
  · intro ⟨rest, hrest, hmatch⟩
    exact ⟨rest.map Char.toLower, (matchTokens_front s).mp hmatch,
      ((List.mem_tails _ _).mp hrest).map _⟩
  · intro ⟨lowered, hprefix, hsuffix⟩
    obtain ⟨front, rest, rfl, hfront, rfl⟩ := List.append_eq_map_iff.mp hsuffix.choose_spec
    exact ⟨rest, (List.mem_tails _ _).mpr (List.suffix_append _ _),
      (matchTokens_front s).mpr hprefix⟩

end Match

/-! ## A text a pattern matches -/

/-- The shortest text the tokens match, with `a` where any character will do. -/
def sample : List Token → List Char
  | [] => []
  | .any :: ts => sample ts
  | .one :: ts => 'a' :: sample ts
  | .lit c :: ts => c :: sample ts

theorem matchTokens_sample (ts : List Token) : matchTokens ts (sample ts) = true := by
  induction ts with
  | nil => rfl
  | cons t ts ih =>
    cases t with
    | any => exact matchTokens_any_of (List.suffix_refl _) ih
    | one => simpa only [sample, matchTokens] using ih
    | lit c => simp [sample, ih]

/-- The text a search between two `%` finds. -/
def found (s : List Char) : List Char := sample (tokens (s ++ ['%']))

theorem isLike_found (s : List Char) : isLike (found s) ('%' :: (s ++ ['%'])) = true := by
  rw [isLike, tokens_percent]
  exact matchTokens_any_of (List.suffix_refl _) (matchTokens_sample _)

/-- `found`, by the first characters of the search. -/
theorem found_induct {P : List Char → Prop} (hnil : P []) (hslash : P ['\\'])
    (hescape : ∀ c s, P s → P ('\\' :: c :: s)) (hcons : ∀ c s, c ≠ '\\' → P s → P (c :: s))
    (s : List Char) : P s := by
  induction s using tokens.induct with
  | case1 => exact hnil
  | case2 c s ih => exact hescape c s ih
  | case3 c s h ih =>
    by_cases hc : c = '\\'
    · cases s with
      | nil => exact hc ▸ hslash
      | cons d s => exact absurd rfl (h d s hc)
    · exact hcons c s hc ih

@[simp] theorem found_escape (c : Char) (s : List Char) :
    found ('\\' :: c :: s) = c :: found s := rfl

@[simp] theorem found_percent (s : List Char) : found ('%' :: s) = found s := by
  simp [found, sample]

@[simp] theorem found_underscore (s : List Char) : found ('_' :: s) = 'a' :: found s := by
  simp [found, sample]

theorem found_lit {c : Char} (h : isMeta c = false) (s : List Char) :
    found (c :: s) = c :: found s := by
  rw [found, List.cons_append, tokens_lit h]
  rfl

/-- What is known of a character that is no backslash. -/
theorem meta_cases {c : Char} (h : c ≠ '\\') : c = '%' ∨ c = '_' ∨ isMeta c = false := by
  by_cases hpercent : c = '%'
  · exact .inl hpercent
  · by_cases hunderscore : c = '_'
    · exact .inr (.inl hunderscore)
    · exact .inr (.inr (by simp [isMeta, hpercent, hunderscore, h]))

theorem length_found (s : List Char) : (found s).length ≤ s.length := by
  induction s using found_induct with
  | hnil => exact Nat.le_refl 0
  | hslash => exact Nat.le_refl 1
  | hescape c s ih =>
    rw [found_escape, List.length_cons, List.length_cons, List.length_cons]
    omega
  | hcons c s hc ih =>
    rcases meta_cases hc with rfl | rfl | hlit
    · rw [found_percent, List.length_cons]
      omega
    · rw [found_underscore, List.length_cons, List.length_cons]
      omega
    · rw [found_lit hlit, List.length_cons, List.length_cons]
      omega

/-- A search that finds its own text, whatever the case, has no pattern characters. -/
theorem plain_of_found {s : List Char}
    (h : (found s).map Char.toLower = s.map Char.toLower) : s.any isMeta = false := by
  induction s using found_induct with
  | hnil => rfl
  | hslash => exact absurd h (by decide)
  | hescape c s ih =>
    have hlength := congrArg List.length h
    rw [List.length_map, List.length_map, found_escape, List.length_cons, List.length_cons,
      List.length_cons] at hlength
    have hle := length_found s
    omega
  | hcons c s hc ih =>
    rcases meta_cases hc with rfl | rfl | hlit
    · have hlength := congrArg List.length h
      rw [List.length_map, List.length_map, found_percent, List.length_cons] at hlength
      have hle := length_found s
      omega
    · rw [found_underscore, List.map_cons, List.map_cons] at h
      exact absurd (List.cons.inj h).1 (by decide)
    · rw [found_lit hlit, List.map_cons, List.map_cons] at h
      rw [List.any_cons, hlit, ih (List.cons.inj h).2]
      rfl

/-- A search with a pattern character finds a text that does not contain it. -/
theorem not_infix_found {s : List Char} (h : s.any isMeta = true) :
    ¬ s.map Char.toLower <:+: (found s).map Char.toLower := by
  intro hinfix
  have hlength := hinfix.length_le
  have hle := length_found s
  rw [List.length_map, List.length_map] at hlength
  have hsame := hinfix.eq_of_length (by simp; omega)
  rw [plain_of_found hsame.symm] at h
  cases h

/-- The text found is made of the characters of the search, and of `a`. -/
theorem mem_found {s : List Char} {d : Char} (h : d ∈ found s) : d = 'a' ∨ d = '%' ∨ d ∈ s := by
  induction s using found_induct with
  | hnil => cases h
  | hslash => exact .inr (.inl (List.mem_singleton.mp h))
  | hescape c s ih =>
    rw [found_escape, List.mem_cons] at h
    grind
  | hcons c s hc ih =>
    rcases meta_cases hc with rfl | rfl | hlit
    · rw [found_percent] at h
      grind
    · rw [found_underscore, List.mem_cons] at h
      grind
    · rw [found_lit hlit, List.mem_cons] at h
      grind

end Like
