import TenantSaas.App.Request
import TenantSaas.Misc.DateTime
import TenantSaas.Misc.JsonRoundTrip

/-!
# Log lines

`logging_config.py`: each record is one line of JSON on the standard output, from which it can be
read back, whatever its message, its fields and its traceback hold.
-/

namespace TenantSaas

open JsonText PyDateTime

/-- What the formatter reads of a `logging.LogRecord`; `extra` are the attributes that a call
adds, each a string or `None`. -/
structure LogRecord where
  created : DateTime
  levelname : String
  name : String
  message : String
  extra : List (String × Option String)
  /-- `formatException(exc_info)`, for a record with an exception -/
  exception : Option String

namespace LogRecord

/-- `time.strftime("%Y-%m-%dT%H:%M:%S", time.gmtime(record.created))` -/
def timestamp (record : LogRecord) : String :=
  let t := record.created
  String.ofList (dateChars t ++ 'T' :: (PyStr.pad 2 t.hour ++ ':' :: (PyStr.pad 2 t.minute ++
    ':' :: PyStr.pad 2 t.second)))

/-- The structured fields that are attached (`logging_config.py:30`). -/
def extraKeys : List String := ["tenant", "user_id", "role", "path", "request_id"]

/-- `if hasattr(record, key): payload[key] = getattr(record, key)` -/
def attach (record : LogRecord) (payload : List (String × Json)) (key : String) :
    List (String × Json) :=
  match record.extra.lookup key with
  | some v => dictSet key (.ofOption v) payload
  | none => payload

/-- The `payload` of `JsonFormatter.format` (`logging_config.py:23-35`). -/
def payload (record : LogRecord) : List (String × Json) :=
  let base : List (String × Json) := [("timestamp", .str record.timestamp),
    ("level", .str record.levelname), ("logger", .str record.name),
    ("message", .str record.message)]
  let fields := extraKeys.foldl record.attach base
  match record.exception with
  | some text => dictSet "exception" (.str text) fields
  | none => fields

/-- `JsonFormatter.format` (`logging_config.py:22-36`) -/
def format (float : PyFloat → List Char) (record : LogRecord) : String :=
  dumps float (.obj record.payload)

end LogRecord

/-- What the handler has written to its stream: each record ends in the terminator. -/
def logText (float : PyFloat → List Char) (records : List LogRecord) : String :=
  String.ofList (records.flatMap fun record => (record.format float).toList ++ ['\n'])

/-- `log_request` (`app.py:298-310`), for the identity of the session. -/
def requestRecord (created : DateTime) (request : Request) (identity : Option Identity) :
    LogRecord where
  created := created
  levelname := "INFO"
  name := "tenant_saas"
  message := "Incoming request"
  extra := [
    ("path", some request.path),
    ("tenant", identity.map Identity.tenant),
    ("user_id", identity.bind Identity.userId),
    ("role", identity.map Identity.role)]
  exception := none

/-! ## Reading the log -/

/-- The lines of a text that ends in a line break. -/
def logLines (text : String) : List String := (PyStr.split text '\n').dropLast

section Reading

theorem mem_dictSet {α : Type} {key : String} {v : α} {entries : List (String × α)}
    {entry : String × α} (h : entry ∈ dictSet key v entries) :
    entry = (key, v) ∨ entry ∈ entries := by
  induction entries with
  | nil => exact .inl (List.mem_singleton.mp h)
  | cons first rest ih =>
    unfold dictSet at h
    split at h
    · rcases List.mem_cons.mp h with rfl | h
      · exact .inl rfl
      · exact .inr (List.mem_cons_of_mem _ h)
    · rcases List.mem_cons.mp h with rfl | h
      · exact .inr List.mem_cons_self
      · exact (ih h).imp_right (List.mem_cons_of_mem _)

theorem nodup_dictSet {α : Type} {key : String} {v : α} {entries : List (String × α)}
    (h : (entries.map Prod.fst).Nodup) : ((dictSet key v entries).map Prod.fst).Nodup := by
  induction entries with
  | nil => simp [dictSet]
  | cons first rest ih =>
    rw [List.map_cons, List.nodup_cons] at h
    unfold dictSet
    split
    · rename_i hkey
      rw [List.map_cons, List.nodup_cons, ← hkey]
      exact h
    · rename_i hkey
      rw [List.map_cons, List.nodup_cons]
      refine ⟨fun hmem => ?_, ih h.2⟩
      obtain ⟨entry, hentry, heq⟩ := List.mem_map.mp hmem
      rcases mem_dictSet hentry with rfl | hentry
      · exact hkey heq.symm
      · exact h.1 (heq ▸ List.mem_map_of_mem hentry)

theorem plain_dictSet {key : String} {v : Json} {fields : List (String × Json)} (hv : Plain v)
    (h : Plain (.obj fields)) : Plain (.obj (dictSet key v fields)) := by
  cases h with
  | obj hkeys hfields =>
    refine .obj (nodup_dictSet hkeys) fun entry hentry => ?_
    rcases mem_dictSet hentry with rfl | hentry
    · exact hv
    · exact hfields entry hentry

theorem LogRecord.plain_attach {record : LogRecord} {fields : List (String × Json)}
    (h : Plain (.obj fields)) (key : String) : Plain (.obj (record.attach fields key)) := by
  unfold LogRecord.attach
  cases record.extra.lookup key with
  | none => exact h
  | some v => exact plain_dictSet (plain_ofOption v) h

theorem LogRecord.plain_foldl {record : LogRecord} (keys : List String)
    {fields : List (String × Json)} (h : Plain (.obj fields)) :
    Plain (.obj (keys.foldl record.attach fields)) := by
  induction keys generalizing fields with
  | nil => exact h
  | cons key keys ih => exact ih (LogRecord.plain_attach h key)

theorem LogRecord.plain_payload (record : LogRecord) : Plain (.obj record.payload) := by
  have hbase : Plain (.obj [("timestamp", .str record.timestamp),
      ("level", .str record.levelname), ("logger", .str record.name),
      ("message", .str record.message)]) := by
    refine .obj (by simp) ?_
    simp only [List.forall_mem_cons, List.not_mem_nil, false_imp_iff, implies_true, and_true]
    exact ⟨.str _, .str _, .str _, .str _⟩
  unfold LogRecord.payload
  cases record.exception with
  | none => exact LogRecord.plain_foldl _ hbase
  | some text => exact plain_dictSet (.str text) (LogRecord.plain_foldl _ hbase)

/-- A record is written on one line. -/
theorem LogRecord.newline_notMem_format (float : PyFloat → List Char) (record : LogRecord) :
    '\n' ∉ (record.format float).toList := by
  intro h
  rw [LogRecord.format, dumps, String.toList_ofList] at h
  exact absurd (isPrintable_write record.plain_payload '\n' h) (by decide)

theorem flatMap_eq_intercalate {α : Type} (sep : α) (lines : List (List α)) :
    (lines.flatMap fun line => line ++ [sep]) = [sep].intercalate (lines ++ [[]]) := by
  induction lines with
  | nil => rfl
  | cons line lines ih =>
    have hne : lines ++ [[]] ≠ [] := by simp
    obtain ⟨next, rest, hrest⟩ := List.exists_cons_of_ne_nil hne
    rw [List.flatMap_cons, ih, List.cons_append, hrest, List.intercalate_cons_cons]

/-- The lines of the log are its records, in their order. -/
theorem logLines_logText (float : PyFloat → List Char) (records : List LogRecord) :
    logLines (logText float records) = records.map (LogRecord.format float) := by
  have htext : (logText float records).toList =
      ['\n'].intercalate ((records.map fun record => (record.format float).toList) ++ [[]]) := by
    rw [logText, String.toList_ofList, ← flatMap_eq_intercalate, List.flatMap_map]
  have hlines : ∀ line ∈ (records.map fun record => (record.format float).toList) ++ [[]],
      '\n' ∉ line := by
    intro line hline
    rcases List.mem_append.mp hline with hline | hline
    · obtain ⟨record, -, rfl⟩ := List.mem_map.mp hline
      exact record.newline_notMem_format float
    · rw [List.mem_singleton.mp hline]
      exact List.not_mem_nil
  rw [logLines, PyStr.split, htext, List.splitOn_intercalate '\n' hlines (by simp),
    List.map_append, List.map_singleton, List.dropLast_concat, List.map_map]
  exact List.map_congr_left fun record _ => String.ofList_toList

/-- Read line by line, the log gives back the payload of every record and nothing else. -/
theorem loads_logLines (float : PyFloat → List Char) (records : List LogRecord) :
    (logLines (logText float records)).map loads =
      records.map fun record => some (.obj record.payload) := by
  rw [logLines_logText, List.map_map]
  exact List.map_congr_left fun record _ => loads_dumps record.plain_payload

/-! ## Auditing -/

namespace LogRecord

/-- A structured field of a record, `None` if it has none. -/
def field (record : LogRecord) (key : String) : Option String := (record.extra.lookup key).join

theorem lookup_attach {record : LogRecord} (fields : List (String × Json)) (key key' : String) :
    (record.attach fields key').lookup key =
      if key = key' then ((record.extra.lookup key).map Json.ofOption).or (fields.lookup key)
      else fields.lookup key := by
  unfold attach
  by_cases hkey : key = key'
  · subst hkey
    cases record.extra.lookup key with
    | none => simp
    | some v => simp [lookup_dictSet]
  · cases record.extra.lookup key' with
    | none => simp [hkey]
    | some v => simp [lookup_dictSet, hkey]

theorem lookup_foldl {record : LogRecord} (key : String) (keys : List String)
    (fields : List (String × Json)) :
    (keys.foldl record.attach fields).lookup key =
      if key ∈ keys then ((record.extra.lookup key).map Json.ofOption).or (fields.lookup key)
      else fields.lookup key := by
  induction keys generalizing fields with
  | nil => rfl
  | cons key' keys ih =>
    rw [List.foldl_cons, ih, lookup_attach]
    by_cases hkey : key = key'
    · -- attached here, and once more if the key is listed again
      cases record.extra.lookup key <;> simp [hkey]
    · simp [hkey]

/-- A field of the record is found in its payload under its name. -/
theorem lookup_payload (record : LogRecord) {key : String} (h : key ∈ extraKeys) :
    record.payload.lookup key = (record.extra.lookup key).map Json.ofOption := by
  have hfields : (extraKeys.foldl record.attach [("timestamp", .str record.timestamp),
      ("level", .str record.levelname), ("logger", .str record.name),
      ("message", .str record.message)]).lookup key =
      (record.extra.lookup key).map Json.ofOption := by
    rw [lookup_foldl, if_pos h]
    have hbase : List.lookup key [("timestamp", Json.str record.timestamp),
        ("level", .str record.levelname), ("logger", .str record.name),
        ("message", .str record.message)] = none := by
      simp only [extraKeys, List.mem_cons, List.not_mem_nil, or_false] at h
      rcases h with rfl | rfl | rfl | rfl | rfl <;> rfl
    rw [hbase, Option.or_none]
  unfold payload
  cases record.exception with
  | none => exact hfields
  | some text =>
    have hne : key ≠ "exception" := by
      rintro rfl
      exact absurd h (by decide)
    exact (lookup_dictSet "exception" key _ _).trans ((if_neg hne).trans hfields)

end LogRecord

/-- What a line holds under a key, if it holds a string there. -/
def lineField (key : String) (line : Json) : Option String :=
  match line.getItem key with
  | .ok (.str s) => some s
  | _ => none

/-- The paths on the lines of a tenant. -/
def pathsOfTenant (tenant : String) (text : String) : List String :=
  (((logLines text).filterMap loads).filter fun line =>
    lineField "tenant" line == some tenant).filterMap (lineField "path")

theorem lineField_payload (record : LogRecord) {key : String} (h : key ∈ LogRecord.extraKeys) :
    lineField key (.obj record.payload) = record.field key := by
  unfold lineField LogRecord.field Json.getItem
  simp only [record.lookup_payload h]
  cases record.extra.lookup key with
  | none => rfl
  | some v => cases v <;> rfl

theorem pathsOfTenant_logText (float : PyFloat → List Char) (records : List LogRecord)
    (tenant : String) :
    pathsOfTenant tenant (logText float records) =
      (records.filter fun record => record.field "tenant" == some tenant).filterMap
        (LogRecord.field · "path") := by
  have hlines : (logLines (logText float records)).filterMap loads =
      records.map fun record => .obj record.payload :=
    calc (logLines (logText float records)).filterMap loads
      _ = ((logLines (logText float records)).map loads).filterMap id := by
        rw [List.filterMap_map]
        rfl
      _ = records.map fun record => .obj record.payload := by
        rw [loads_logLines, List.filterMap_map]
        exact congrFun List.filterMap_eq_map' records
  have hkeys : "tenant" ∈ LogRecord.extraKeys ∧ "path" ∈ LogRecord.extraKeys := by decide
  rw [pathsOfTenant, hlines, List.filter_map, List.filterMap_map]
  have hfilter : records.filter ((fun line => lineField "tenant" line == some tenant) ∘
        fun record => .obj record.payload) =
      records.filter fun record => record.field "tenant" == some tenant :=
    List.filter_congr fun record _ => congrArg (· == some tenant) (lineField_payload record hkeys.1)
  have hpath : (lineField "path" ∘ fun record : LogRecord => .obj record.payload) =
      (LogRecord.field · "path") :=
    funext fun record => lineField_payload record hkeys.2
  rw [hfilter, hpath]

/-- A request is logged with its path, under the tenant of its session. -/
@[simp] theorem field_requestRecord (created : DateTime) (request : Request)
    (identity : Option Identity) :
    (requestRecord created request identity).field "tenant" = identity.map Identity.tenant ∧
    (requestRecord created request identity).field "path" = some request.path := by
  simp [LogRecord.field, requestRecord, lookup_entry]

/-- The log is read line by line: each record is one line, from which its payload is read back,
whatever its message, its fields and its traceback hold.  So the lines of a tenant give the paths
of the records of that tenant, and no others. -/
theorem log_read_back (float : PyFloat → List Char) (records : List LogRecord) :
    (logLines (logText float records)).map loads =
      (records.map fun record => some (.obj record.payload)) ∧
    ∀ tenant, pathsOfTenant tenant (logText float records) =
      (records.filter fun record => record.field "tenant" == some tenant).filterMap
        (LogRecord.field · "path") :=
  ⟨loads_logLines float records, pathsOfTenant_logText float records⟩

end Reading

end TenantSaas
