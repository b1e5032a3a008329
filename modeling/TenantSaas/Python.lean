import Mathlib.Data.Rat.Floor
import TenantSaas.Misc.PyStr

/-!
# Python values and exceptions

The exceptions the program raises and catches, and the values `json.loads` produces, with
the operations the program applies to values it has not checked yet.
-/

namespace TenantSaas

/-- The exceptions told apart by the program's `except` clauses. -/
inductive PyError where
  | invalidUsageEvent (message : String)
  | clientError (code : String)
  | botoCoreError
  | jsonDecodeError
  | keyError (key : String)
  | typeError
  | valueError (message : String)
  | attributeError
  | overflowError
  | runtimeError (message : String)
  | mysqlError (name : String)
  | oauthExchangeError (message : String)
  | invalidTokenError (message : String)
  | trustedHeaderAuthError (message : String)
  | buildError (endpoint : String)
  deriving DecidableEq, Repr

/-- A computation that may raise succeeds when its parts do. -/
theorem exceptBind_eq_ok {α β : Type} {x : Except PyError α} {f : α → Except PyError β} {b : β} :
    (x >>= f) = .ok b ↔ ∃ a, x = .ok a ∧ f a = .ok b := by
  cases x with
  | error e =>
    constructor
    · intro h
      cases h
    · intro h'
      obtain ⟨a, h, -⟩ := h'
      cases h
  | ok a =>
    constructor
    · intro h
      exact ⟨a, rfl, h⟩
    · intro h'
      obtain ⟨a', h, hf⟩ := h'
      cases h
      exact hf

theorem isOk_eq_true {α : Type} {x : Except PyError α} : x.isOk = true ↔ ∃ a, x = .ok a := by
  cases x <;> simp [Except.isOk, Except.toBool]

/-- A Python `float`; finite values are read as exact numbers. -/
inductive PyFloat where
  | nan
  | inf (negative : Bool)
  | fin (value : ℚ)

/-- What `json.loads` returns. -/
inductive Json where
  | null
  | bool (value : Bool)
  | int (value : Int)
  | float (value : PyFloat)
  | str (value : String)
  | arr (items : List Json)
  | obj (fields : List (String × Json))

/-- A JSON text as `json.loads` sees it: it decodes to a value, or it does not.  A text that nests
too deep for the interpreter, or has an integer of too many digits, is left out. -/
inductive Body where
  | malformed
  | json (value : Json)

namespace Body

/-- `json.loads(text)` -/
def loads : Body → Except PyError Json
  | malformed => .error .jsonDecodeError
  | json value => .ok value

/-- `json.dumps(value)` -/
def dumps (value : Json) : Body := .json value

@[simp] theorem loads_dumps (value : Json) : (dumps value).loads = .ok value := rfl

end Body

namespace Json

/-- `v in (None, "")` -/
def isBlank : Json → Bool
  | null => true
  | str s => s == ""
  | _ => false

/-- `isinstance(v, str) and v.strip()`, as a condition. -/
def isStrip : Json → Bool
  | str s => PyStr.strip s != ""
  | _ => false

/-- `v == name` for a string `name`. -/
def isStr (name : String) : Json → Bool
  | str s => s == name
  | _ => false

/-- `name in v` -/
def contains (v : Json) (name : String) : Except PyError Bool :=
  match v with
  | obj fields => .ok (fields.any fun f => f.1 == name)
  | arr items => .ok (items.any fun item => item.isStr name)
  | str s => .ok (PyStr.contains s name)
  | _ => .error .typeError

/-- `v[name]` -/
def getItem (v : Json) (name : String) : Except PyError Json :=
  match v with
  | obj fields =>
    match fields.lookup name with
    | some value => .ok value
    | none => .error (.keyError name)
  | _ => .error .typeError

/-- `v.get(name, default)`; only a dict has `get`. -/
def dictGet (v : Json) (name : String) (default : Json) : Except PyError Json :=
  match v with
  | obj fields => .ok ((fields.lookup name).getD default)
  | _ => .error .attributeError

/-- A string, or `None`. -/
def ofOption : Option String → Json
  | some s => str s
  | none => null

/-- `isinstance(v, int)`; a `bool` is an `int`. -/
def isInt : Json → Bool
  | bool _ => true
  | int _ => true
  | _ => false

/-- `isinstance(v, (int, float))` -/
def isNumber : Json → Bool
  | bool _ => true
  | int _ => true
  | float _ => true
  | _ => false

/-- `v <= 0` on a number; every comparison with `nan` is false. -/
def isNonpositive : Json → Bool
  | bool b => !b
  | int i => decide (i ≤ 0)
  | float (.fin q) => decide (q ≤ 0)
  | float (.inf negative) => negative
  | _ => false

/-- `v` may be the key of a dict. -/
def isHashable : Json → Bool
  | arr _ => false
  | obj _ => false
  | _ => true

/-- `bool(v)` -/
def truthy : Json → Bool
  | null => false
  | bool b => b
  | int i => i != 0
  | float (.fin q) => decide (q ≠ 0)
  | float _ => true
  | str s => s != ""
  | arr items => !items.isEmpty
  | obj fields => !fields.isEmpty

/-- `int(text)`, with `none` for a `ValueError`. -/
def parseInt (text : String) : Option Int :=
  match ((text.toList.dropWhile PyStr.isIntSpace).reverse.dropWhile PyStr.isIntSpace).reverse with
  | '-' :: cs => (PyStr.intDigits cs).map fun n => -(n : Int)
  | '+' :: cs => (PyStr.intDigits cs).map fun n => (n : Int)
  | cs => (PyStr.intDigits cs).map fun n => (n : Int)

/-- `int(v)`, which cuts a float towards zero. -/
def toInt : Json → Except PyError Int
  | bool b => .ok (if b then 1 else 0)
  | int i => .ok i
  | float (.fin q) => .ok (Int.tdiv q.num q.den)
  | float .nan => .error (.valueError "cannot convert float NaN to integer")
  | float (.inf _) => .error .overflowError
  | str s =>
    match parseInt s with
    | some i => .ok i
    | none => .error (.valueError "invalid literal for int() with base 10")
  | _ => .error .typeError

/-- `2 ** 1024 - 2 ** 970`: an `int` of this size rounds to no `float`. -/
def floatLimit : Nat := (2 ^ 54 - 1) * (2 ^ 194) ^ 5

/-- The second summand of `t + int(v)` for a `float` `t`. -/
def toSeconds (v : Json) : Except PyError Int := do
  let seconds ← v.toInt
  if seconds.natAbs < floatLimit then pure seconds else throw .overflowError

/-- `f"{v}"`; `repr` prints floats and containers. -/
def format (repr : Json → String) : Json → String
  | str s => s
  | int i => toString i
  | bool b => if b then "True" else "False"
  | null => "None"
  | v => repr v

@[simp] theorem format_str (repr : Json → String) (s : String) : (str s).format repr = s := rfl

theorem isBlank_str {s : String} (h : s ≠ "") : (str s).isBlank = false := beq_false_of_ne h

theorem isStrip_eq_true {v : Json} :
    v.isStrip = true ↔ ∃ s, v = str s ∧ PyStr.strip s ≠ "" := by
  cases v <;> simp [isStrip]

@[simp] theorem getItem_obj (fields : List (String × Json)) (name : String) :
    (obj fields).getItem name =
      match fields.lookup name with
      | some value => .ok value
      | none => .error (.keyError name) := rfl

theorem toSeconds_eq_ok {v : Json} {seconds : Int} :
    v.toSeconds = .ok seconds ↔ v.toInt = .ok seconds ∧ seconds.natAbs < floatLimit := by
  unfold toSeconds
  rw [exceptBind_eq_ok]
  constructor
  · intro h
    obtain ⟨n, hint, h⟩ := h
    split at h
    · next hfits =>
      obtain rfl := Except.ok.inj h
      exact ⟨hint, hfits⟩
    · cases h
  · intro h
    exact ⟨seconds, h.1, by rw [if_pos h.2]; rfl⟩

/-- A number that is not `nan` or infinite converts to an `int`, and a positive one to a
non-negative `int`. -/
theorem toInt_nonneg {v : Json} {n : Int} (number : v.isNumber) (positive : v.isNonpositive = false)
    (h : v.toInt = .ok n) : 0 ≤ n := by
  cases v with
  | bool b =>
    obtain rfl := Except.ok.inj h
    cases b <;> decide
  | int i =>
    simp only [toInt, Except.ok.injEq] at h
    simp only [isNonpositive, decide_eq_false_iff_not] at positive
    omega
  | float x =>
    cases x with
    | fin q =>
      simp only [toInt, Except.ok.injEq] at h
      simp only [isNonpositive, decide_eq_false_iff_not, not_le] at positive
      rw [← h]
      exact Int.tdiv_nonneg (Rat.num_nonneg.mpr positive.le) (Int.natCast_nonneg _)
    | nan => simp [toInt] at h
    | inf b => simp [toInt] at h
  | null => simp [isNumber] at number
  | str s => simp [isNumber] at number
  | arr items => simp [isNumber] at number
  | obj fields => simp [isNumber] at number

end Json

/-! ## Dicts as association lists -/

/-- `d[key] = value` in a dict, which keeps the place of a key it has. -/
def dictSet {α : Type} (key : String) (value : α) : List (String × α) → List (String × α)
  | [] => [(key, value)]
  | entry :: entries =>
    if entry.1 = key then (key, value) :: entries else entry :: dictSet key value entries

/-- `d.pop(key, None)` -/
def dictPop {α : Type} (key : String) (entries : List (String × α)) : List (String × α) :=
  entries.filter fun entry => entry.1 != key

theorem lookup_entry {α : Type} (key : String) (entry : String × α)
    (entries : List (String × α)) :
    (entry :: entries).lookup key =
      if key = entry.1 then some entry.2 else entries.lookup key := by
  rw [List.lookup_cons]
  by_cases h : key = entry.1
  · simp [h]
  · rw [if_neg h, beq_false_of_ne h]

theorem lookup_dictSet {α : Type} (key key' : String) (value : α) (entries : List (String × α)) :
    (dictSet key value entries).lookup key' =
      if key' = key then some value else entries.lookup key' := by
  induction entries with
  | nil => exact lookup_entry key' (key, value) []
  | cons entry entries ih =>
    unfold dictSet
    by_cases hentry : entry.1 = key
    · rw [if_pos hentry, lookup_entry, lookup_entry, hentry]
      by_cases h : key' = key <;> simp [h]
    · rw [if_neg hentry, lookup_entry, lookup_entry, ih]
      by_cases h : key' = entry.1
      · simp [h, hentry]
      · simp [h]

theorem lookup_dictPop {α : Type} (key key' : String) (entries : List (String × α)) :
    (dictPop key entries).lookup key' = if key' = key then none else entries.lookup key' := by
  induction entries with
  | nil => simp [dictPop]
  | cons entry entries ih =>
    unfold dictPop at ih ⊢
    by_cases hentry : entry.1 = key
    · rw [List.filter_cons_of_neg (by simp [hentry]), ih, lookup_entry, hentry]
      by_cases h : key' = key <;> simp [h]
    · rw [List.filter_cons_of_pos (by simp [hentry]), lookup_entry, lookup_entry, ih]
      by_cases h : key' = entry.1
      · simp [h, hentry]
      · simp [h]

end TenantSaas
