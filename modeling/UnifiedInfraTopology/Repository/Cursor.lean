import UnifiedInfraTopology.Lib.Json
import UnifiedInfraTopology.Model.Inventory

/-!
# The checkpoint cursor and its JSON text

`DeviceSyncCursor` of `inventory_checkpoints.go`, the text stored for it in the `cursor` column, and
the checks made when it is stored and when it is read back.

`marshalCursor` and `unmarshalCursor` follow `encoding/json` with the tags of the struct: the last
partition is omitted when it is zero, names are matched without regard to case, a repeated name
overwrites, an unknown name is skipped.  Go's `int` is `Int` here, with the 64-bit range checked
where a number is read from text.

* `unmarshal_marshal`: the text of a cursor reads back as that cursor;
* `decode_encoded`: a stored text that decodes gives the cursor it was written from, at microseconds.
-/

namespace UnifiedInfraTopology

open Lib

/-- The errors of `repository.go`, those of the JSON encoder and those of the database. -/
inductive InventoryError where
  | notFound
  | notReady
  | conflict
  | idempotency
  | source
  | noRun
  | encoding
  | database
deriving DecidableEq

def deviceSyncCursorVersion : Int := 1

structure DeviceSyncCursor where
  version : Int
  runId : String
  nextOffset : Int
  lastInstanceId : Int64
  lastPartition : Int64
  snapshotAt : Time
  total : Int
deriving DecidableEq

structure DeviceSyncCheckpoint where
  sourceId : String
  resource : String
  cursor : DeviceSyncCursor
  complete : Bool
  completedAt : Option Time
  updatedAt : Time
deriving DecidableEq

namespace DeviceSyncCursor

/-- The zero value of the struct. -/
def zero : DeviceSyncCursor := ⟨0, "", 0, 0, 0, 0, 0⟩

/-- `cursor.SnapshotAt = cursor.SnapshotAt.UTC().Truncate(time.Microsecond)`. -/
def truncated (c : DeviceSyncCursor) : DeviceSyncCursor :=
  { c with snapshotAt := c.snapshotAt.truncateMicro }

end DeviceSyncCursor

/-! ## JSON -/

/-- `json.Marshal` of a cursor; a snapshot outside the years 0 to 9999 is an error. -/
def marshalCursor (c : DeviceSyncCursor) : Option String :=
  (formatRFC3339 c.snapshotAt).map fun snapshot => String.ofList (Json.printObject (
    [("version", .int c.version), ("run_id", .str c.runId), ("next_offset", .int c.nextOffset),
      ("last_instance_id", .int c.lastInstanceId.toInt)] ++
    (if c.lastPartition = 0 then [] else [("last_partition", .int c.lastPartition.toInt)]) ++
    [("snapshot_at", .str (String.ofList snapshot)), ("total", .int c.total)]))

/-- The case folding of `encoding/json`: the ASCII letters and the two letters that fold to one. -/
def foldChar (c : Char) : Char :=
  if 97 ≤ c.toNat ∧ c.toNat ≤ 122 then Char.ofNat (c.toNat - 32)
  else if c.toNat = 0x17F then 'S'
  else if c.toNat = 0x212A then 'K'
  else c

def foldName (name : String) : String := String.ofList (name.toList.map foldChar)

def int64Range (n : Int) : Bool := -9223372036854775808 ≤ n && n ≤ 9223372036854775807

/-- Assign a JSON value to an integer field; `null` leaves the field as it is. -/
def assignInt (old : Int) : Json.Value → Option Int
  | .null => some old
  | .number n => n.int?.bind fun v => if int64Range v then some v else none
  | _ => none

def assignInt64 (old : Int64) (v : Json.Value) : Option Int64 :=
  (assignInt old.toInt v).map Int64.ofInt

def assignString (old : String) : Json.Value → Option String
  | .null => some old
  | .string s => some s
  | _ => none

def assignTime (old : Time) : Json.Value → Option Time
  | .null => some old
  | .string s => parseRFC3339 s.toList
  | _ => none

/-- Assign one member of the object to the field with its name. -/
def assignMember (c : DeviceSyncCursor) (member : String × Json.Value) : Option DeviceSyncCursor :=
  let name := foldName member.1
  let v := member.2
  if name = "VERSION" then (assignInt c.version v).map fun n => { c with version := n }
  else if name = "RUN_ID" then (assignString c.runId v).map fun s => { c with runId := s }
  else if name = "NEXT_OFFSET" then (assignInt c.nextOffset v).map fun n => { c with nextOffset := n }
  else if name = "LAST_INSTANCE_ID" then
    (assignInt64 c.lastInstanceId v).map fun n => { c with lastInstanceId := n }
  else if name = "LAST_PARTITION" then
    (assignInt64 c.lastPartition v).map fun n => { c with lastPartition := n }
  else if name = "SNAPSHOT_AT" then (assignTime c.snapshotAt v).map fun t => { c with snapshotAt := t }
  else if name = "TOTAL" then (assignInt c.total v).map fun n => { c with total := n }
  else some c

/-- `json.Unmarshal` into a zero cursor. -/
def unmarshalCursor (text : String) : Option DeviceSyncCursor :=
  match Json.parse text.toList with
  | some .null => some .zero
  | some (.object members) => members.foldlM assignMember .zero
  | _ => none

/-- The integers of a cursor are 64-bit integers. -/
def DeviceSyncCursor.inRange (c : DeviceSyncCursor) : Bool :=
  int64Range c.version && int64Range c.nextOffset && int64Range c.total

theorem assignInt_number (old n : Int) :
    assignInt old (.number (Json.numberOfInt n)) = if int64Range n then some n else none := by
  simp [assignInt]

theorem int64Range_toInt (n : Int64) : int64Range n.toInt = true := by
  have low := n.le_toInt
  have high := n.toInt_lt
  simp only [int64Range, Bool.and_eq_true, decide_eq_true_eq]
  omega

theorem assignInt64_number (old n : Int64) :
    assignInt64 old (.number (Json.numberOfInt n.toInt)) = some n := by
  rw [assignInt64, assignInt_number, int64Range_toInt]
  simp

/-! Each member the printer writes assigns its own field. -/

section Members

variable (c : DeviceSyncCursor)

theorem assignMember_version (n : Int) :
    assignMember c ("version", .number (Json.numberOfInt n)) =
      if int64Range n then some { c with version := n } else none := by
  have name : foldName "version" = "VERSION" := by decide
  simp only [assignMember, name, ↓reduceIte, assignInt_number]
  split <;> rfl

theorem assignMember_runId (s : String) :
    assignMember c ("run_id", .string s) = some { c with runId := s } := by
  have name : foldName "run_id" = "RUN_ID" := by decide
  have apart : "RUN_ID" ≠ "VERSION" := by decide
  simp only [assignMember, name, apart, ↓reduceIte, assignString, Option.map_some]

theorem assignMember_nextOffset (n : Int) :
    assignMember c ("next_offset", .number (Json.numberOfInt n)) =
      if int64Range n then some { c with nextOffset := n } else none := by
  have name : foldName "next_offset" = "NEXT_OFFSET" := by decide
  have apart : "NEXT_OFFSET" ≠ "VERSION" ∧ "NEXT_OFFSET" ≠ "RUN_ID" := by decide
  simp only [assignMember, name, apart, ↓reduceIte, assignInt_number]
  split <;> rfl

theorem assignMember_lastInstanceId (n : Int64) :
    assignMember c ("last_instance_id", .number (Json.numberOfInt n.toInt)) =
      some { c with lastInstanceId := n } := by
  have name : foldName "last_instance_id" = "LAST_INSTANCE_ID" := by decide
  have apart : "LAST_INSTANCE_ID" ≠ "VERSION" ∧ "LAST_INSTANCE_ID" ≠ "RUN_ID" ∧
      "LAST_INSTANCE_ID" ≠ "NEXT_OFFSET" := by decide
  simp only [assignMember, name, apart, ↓reduceIte, assignInt64_number, Option.map_some]

theorem assignMember_lastPartition (n : Int64) :
    assignMember c ("last_partition", .number (Json.numberOfInt n.toInt)) =
      some { c with lastPartition := n } := by
  have name : foldName "last_partition" = "LAST_PARTITION" := by decide
  have apart : "LAST_PARTITION" ≠ "VERSION" ∧ "LAST_PARTITION" ≠ "RUN_ID" ∧
      "LAST_PARTITION" ≠ "NEXT_OFFSET" ∧ "LAST_PARTITION" ≠ "LAST_INSTANCE_ID" := by decide
  simp only [assignMember, name, apart, ↓reduceIte, assignInt64_number, Option.map_some]

theorem assignMember_snapshotAt {t : Time} {text : List Char}
    (printed : formatRFC3339 t = some text) :
    assignMember c ("snapshot_at", .string (String.ofList text)) =
      some { c with snapshotAt := t } := by
  have name : foldName "snapshot_at" = "SNAPSHOT_AT" := by decide
  have apart : "SNAPSHOT_AT" ≠ "VERSION" ∧ "SNAPSHOT_AT" ≠ "RUN_ID" ∧
      "SNAPSHOT_AT" ≠ "NEXT_OFFSET" ∧ "SNAPSHOT_AT" ≠ "LAST_INSTANCE_ID" ∧
      "SNAPSHOT_AT" ≠ "LAST_PARTITION" := by decide
  simp only [assignMember, name, apart, ↓reduceIte, assignTime, String.toList_ofList,
    parse_format printed, Option.map_some]

theorem assignMember_total (n : Int) :
    assignMember c ("total", .number (Json.numberOfInt n)) =
      if int64Range n then some { c with total := n } else none := by
  have name : foldName "total" = "TOTAL" := by decide
  have apart : "TOTAL" ≠ "VERSION" ∧ "TOTAL" ≠ "RUN_ID" ∧ "TOTAL" ≠ "NEXT_OFFSET" ∧
      "TOTAL" ≠ "LAST_INSTANCE_ID" ∧ "TOTAL" ≠ "LAST_PARTITION" ∧ "TOTAL" ≠ "SNAPSHOT_AT" := by
    decide
  simp only [assignMember, name, apart, ↓reduceIte, assignInt_number]
  split <;> rfl

end Members

/-- The text of a cursor reads back as that cursor. -/
theorem unmarshal_marshal {c : DeviceSyncCursor} {text : String}
    (marshaled : marshalCursor c = some text) :
    unmarshalCursor text = if c.inRange then some c else none := by
  unfold marshalCursor at marshaled
  rw [Option.map_eq_some_iff] at marshaled
  obtain ⟨snapshot, printed, rfl⟩ := marshaled
  rw [unmarshalCursor, String.toList_ofList, Json.parse_printObject]
  rcases c with ⟨version, runId, nextOffset, lastInstanceId, lastPartition, snapshotAt, total⟩
  by_cases omitted : lastPartition = 0
  · subst omitted
    simp only [↓reduceIte, List.append_nil, List.cons_append, List.nil_append, List.map_cons,
      List.map_nil, Json.Scalar.value, List.foldlM_cons, List.foldlM_nil, assignMember_version,
      assignMember_runId, assignMember_nextOffset, assignMember_lastInstanceId,
      assignMember_snapshotAt _ printed, assignMember_total, DeviceSyncCursor.inRange]
    by_cases v : int64Range version <;> by_cases n : int64Range nextOffset <;>
      by_cases t : int64Range total <;> simp [v, n, t, DeviceSyncCursor.zero]
  · simp only [omitted, ↓reduceIte, List.cons_append, List.nil_append, List.map_cons,
      List.map_nil, Json.Scalar.value, List.foldlM_cons, List.foldlM_nil, assignMember_version,
      assignMember_runId, assignMember_nextOffset, assignMember_lastInstanceId,
      assignMember_lastPartition, assignMember_snapshotAt _ printed, assignMember_total,
      DeviceSyncCursor.inRange]
    by_cases v : int64Range version <;> by_cases n : int64Range nextOffset <;>
      by_cases t : int64Range total <;> simp [v, n, t, DeviceSyncCursor.zero]

/-! ## Checks -/

/-- `validateDeviceSyncCursor`. -/
def validateDeviceSyncCursor (cursor : DeviceSyncCursor) : Except InventoryError Unit :=
  if cursor.version ≠ deviceSyncCursorVersion ∨ cursor.runId = "" ∨ cursor.nextOffset < 0 ∨
      cursor.lastInstanceId < 0 ∨ cursor.lastPartition < 0 ∨ cursor.snapshotAt.isZero ∨
      cursor.total < 0 ∨
      (cursor.nextOffset = 0 ∧ (cursor.lastInstanceId ≠ 0 ∨ cursor.lastPartition ≠ 0)) ∨
      (0 < cursor.nextOffset ∧ cursor.lastInstanceId = 0) ∨
      (0 < cursor.total ∧ cursor.total < cursor.nextOffset) then
    .error .conflict
  else .ok ()

/-- `validateInventoryResourceCursor`: an uplink checkpoint counts edges and has no instance. -/
def validateInventoryResourceCursor (resource : String) (cursor : DeviceSyncCursor) :
    Except InventoryError Unit :=
  if resource ≠ "server_uplinks" then validateDeviceSyncCursor cursor
  else if cursor.version ≠ deviceSyncCursorVersion ∨ cursor.runId = "" ∨
      cursor.snapshotAt.isZero ∨ cursor.nextOffset < 0 ∨ cursor.total < 0 ∨
      cursor.total < cursor.nextOffset ∨ cursor.lastInstanceId ≠ 0 ∨ cursor.lastPartition ≠ 0 then
    .error .conflict
  else .ok ()

/-- `decodeDeviceSyncCheckpoint`. -/
def decodeDeviceSyncCheckpoint (stored : SyncCheckpoint) :
    Except InventoryError DeviceSyncCheckpoint :=
  match unmarshalCursor stored.cursor with
  | none => .error .conflict
  | some cursor =>
      let cursor := cursor.truncated
      match validateInventoryResourceCursor stored.resource cursor with
      | .error e => .error e
      | .ok () =>
          if cursor.lastPartition ≠ 0 ∧ stored.resource ≠ "interfaces" then .error .conflict
          else .ok ⟨stored.sourceId, stored.resource, cursor, stored.complete, stored.completedAt,
            stored.updatedAt⟩

/-- A checkpoint that decodes keeps the columns of its row. -/
theorem decode_columns {stored : SyncCheckpoint} {checkpoint : DeviceSyncCheckpoint}
    (decoded : decodeDeviceSyncCheckpoint stored = .ok checkpoint) :
    ∃ cursor, unmarshalCursor stored.cursor = some cursor ∧ checkpoint =
      ⟨stored.sourceId, stored.resource, cursor.truncated, stored.complete, stored.completedAt,
        stored.updatedAt⟩ := by
  unfold decodeDeviceSyncCheckpoint at decoded
  split at decoded
  · cases decoded
  · rename_i cursor read
    dsimp only at decoded
    split at decoded
    · cases decoded
    · split at decoded
      · cases decoded
      · exact ⟨cursor, read, (Except.ok.inj decoded).symm⟩

/-- A checkpoint that decodes has passed the checks of its resource. -/
theorem checks_of_decode {stored : SyncCheckpoint} {checkpoint : DeviceSyncCheckpoint}
    (decoded : decodeDeviceSyncCheckpoint stored = .ok checkpoint) :
    validateInventoryResourceCursor stored.resource checkpoint.cursor = .ok () ∧
      (checkpoint.cursor.lastPartition ≠ 0 → stored.resource = "interfaces") := by
  unfold decodeDeviceSyncCheckpoint at decoded
  split at decoded
  · cases decoded
  · dsimp only at decoded
    split at decoded
    · cases decoded
    · rename_i valid
      split_ifs at decoded with placed
      cases decoded
      refine ⟨valid, fun nonzero => ?_⟩
      by_contra others
      exact placed ⟨nonzero, others⟩

/-- A stored text that decodes gives the cursor it was written from, at microseconds. -/
theorem decode_encoded {stored : SyncCheckpoint} {cursor : DeviceSyncCursor}
    {checkpoint : DeviceSyncCheckpoint} (written : marshalCursor cursor = some stored.cursor)
    (decoded : decodeDeviceSyncCheckpoint stored = .ok checkpoint) :
    checkpoint = ⟨stored.sourceId, stored.resource, cursor.truncated, stored.complete,
      stored.completedAt, stored.updatedAt⟩ := by
  obtain ⟨read, found, rfl⟩ := decode_columns decoded
  rw [unmarshal_marshal written] at found
  split at found
  · cases found
    rfl
  · cases found

/-- A row with the text of a valid cursor decodes to that cursor. -/
theorem decode_of_marshal {stored : SyncCheckpoint} {cursor : DeviceSyncCursor}
    (written : marshalCursor cursor = some stored.cursor) (range : cursor.inRange = true)
    (truncated : cursor.truncated = cursor)
    (valid : validateInventoryResourceCursor stored.resource cursor = .ok ())
    (placed : cursor.lastPartition ≠ 0 → stored.resource = "interfaces") :
    decodeDeviceSyncCheckpoint stored = .ok ⟨stored.sourceId, stored.resource, cursor,
      stored.complete, stored.completedAt, stored.updatedAt⟩ := by
  have unplaced : ¬(cursor.lastPartition ≠ 0 ∧ stored.resource ≠ "interfaces") :=
    fun both => both.2 (placed both.1)
  simp only [decodeDeviceSyncCheckpoint, unmarshal_marshal written, range, ↓reduceIte, truncated,
    valid, unplaced]

end UnifiedInfraTopology
