import UnifiedInfraTopology.Lib.Base64
import UnifiedInfraTopology.Lib.GoString
import UnifiedInfraTopology.Repository.List

/-!
# The list of the inventory service

`List` of `inventory_list.go` in the service, with the checks of a query and the cursors of
`inventory_cursor.go`.  A cursor is the JSON text of an `InventoryCursor` in base 64, a dot, and the
HMAC of the first part in base 64.

* `decode_encodeCursorIn`: an issued cursor decodes to the value that it was made of, when the zone
  of its time is a whole number of minutes;
* `decodeCursor_spelling`: an accepted cursor has the only spelling that its payload has.
-/

namespace UnifiedInfraTopology

open Lib

structure InventoryQuery where
  limit : Int
  cursor : String
  status : String
  sourceId : String

structure InventoryPage where
  items : InventoryItems
  nextCursor : Option String
deriving DecidableEq

structure InventoryGrant where
  userId : String
  permissions : List String

structure InventoryService where
  cursorKey : List UInt8
  grants : List InventoryGrant

/-- The errors of the service, and those of the repository with their texts. -/
inductive InventoryListError where
  | invalid
  | forbidden
  | notReady
  | message (text : String)
deriving DecidableEq

structure InventoryCursor where
  version : Int
  userId : String
  resource : String
  filters : String
  lastId : String
  lastCreatedAt : Option Time
deriving DecidableEq

/-! ## Checks -/

/-- `inventoryID`: 32 bytes, all of them digits or `a` to `f`. -/
def inventoryID (id : String) : Bool :=
  (utf8 id).length = 32 &&
    id.toList.all fun c => (48 ≤ c.toNat && c.toNat ≤ 57) || (97 ≤ c.toNat && c.toNat ≤ 102)

def inventoryOneOf (value : String) (allowed : List String) : Bool :=
  value = "" || allowed.contains value

def validateInventoryQuery (resource parentId : String) (query : InventoryQuery) :
    Except InventoryListError Unit :=
  if parentId ≠ "" ∨ query.limit < 0 ∨ 200 < query.limit ∨ 4096 < (utf8 query.cursor).length then
    .error .invalid
  else if query.sourceId ≠ "" ∧ inventoryID query.sourceId = false then .error .invalid
  else if inventoryOneOf query.status ["queued", "running", "validating", "publishing", "succeeded",
      "failed", "canceled"] = false then
    .error .invalid
  else if resource = "sources" then
    if query.status ≠ "" ∨ query.sourceId ≠ "" then .error .invalid else .ok ()
  else if resource = "sync-runs" then .ok ()
  else .error .invalid

/-- `inventoryFilterHash`: the query without its cursor and its limit. -/
def inventoryFilterHash (query : InventoryQuery) : String :=
  let data := String.ofList (Json.printObject [("Limit", .int 0), ("Cursor", .str ""),
    ("Status", .str query.status), ("SourceID", .str query.sourceId)])
  String.ofList (hexEncode (sha256 (utf8 data)))

/-! ## Cursors -/

/-- `json.Marshal` of a cursor whose time is in a zone `offset` seconds from UTC; a time outside the
years 0 to 9999 is an error. -/
def marshalInventoryCursorIn (offset : Int) (c : InventoryCursor) : Option String :=
  let members : List (String × Json.Scalar) := [("v", .int c.version), ("u", .str c.userId),
    ("r", .str c.resource), ("f", .str c.filters), ("i", .str c.lastId)]
  match c.lastCreatedAt with
  | none => some (String.ofList (Json.printObject members))
  | some t => (formatRFC3339In offset t).map fun text =>
      String.ofList (Json.printObject (members ++ [("t", .str (String.ofList text))]))

/-- `json.Marshal` of a cursor whose time is in UTC. -/
def marshalInventoryCursor (c : InventoryCursor) : Option String := marshalInventoryCursorIn 0 c

def InventoryCursor.zero : InventoryCursor := ⟨0, "", "", "", "", none⟩

/-- Assign a JSON value to a field that points to a time; `null` makes it nil. -/
def assignTimePointer : Json.Value → Option (Option Time)
  | .null => some none
  | .string s => (parseRFC3339 s.toList).map some
  | _ => none

/-- Assign one member of the object to the field with its name. -/
def assignCursorMember (c : InventoryCursor) (member : String × Json.Value) :
    Option InventoryCursor :=
  let name := foldName member.1
  let v := member.2
  if name = "V" then (assignInt c.version v).map fun n => { c with version := n }
  else if name = "U" then (assignString c.userId v).map fun s => { c with userId := s }
  else if name = "R" then (assignString c.resource v).map fun s => { c with resource := s }
  else if name = "F" then (assignString c.filters v).map fun s => { c with filters := s }
  else if name = "I" then (assignString c.lastId v).map fun s => { c with lastId := s }
  else if name = "T" then (assignTimePointer v).map fun t => { c with lastCreatedAt := t }
  else some c

/-- `json.Unmarshal` into a zero cursor. -/
def unmarshalInventoryCursor (text : List Char) : Option InventoryCursor :=
  match Json.parse text with
  | some .null => some .zero
  | some (.object members) => members.foldlM assignCursorMember .zero
  | _ => none

namespace InventoryService

/-- The HMAC of the first part of a cursor. -/
def sign (svc : InventoryService) (payload : List UInt8) : List UInt8 :=
  hmacSha256 svc.cursorKey payload

/-- `encodeCursor` for a time in a zone; a cursor that cannot be marshalled has an empty payload. -/
def encodeCursorIn (svc : InventoryService) (offset : Int) (cursor : InventoryCursor) : String :=
  let payload := Base64.encode (utf8 ((marshalInventoryCursorIn offset cursor).getD ""))
  String.ofList (payload ++ '.' :: Base64.encode (svc.sign (utf8 (String.ofList payload))))

/-- `encodeCursor` for a time in UTC. -/
def encodeCursor (svc : InventoryService) (cursor : InventoryCursor) : String :=
  svc.encodeCursorIn 0 cursor

/-- `decodeCursor`; every failure is the same error. -/
def decodeCursor (svc : InventoryService) (value : List UInt8) : Option InventoryCursor :=
  match value.splitOn 46 with
  | [payload, signature] => do
      let mac ← Base64.decode (latin1 signature)
      if Base64.encode mac ≠ latin1 signature then none
      else if mac ≠ svc.sign payload then none
      else do
        let data ← Base64.decode (latin1 payload)
        let cursor ← unmarshalInventoryCursor (runes data)
        if cursor.version ≠ 1 ∨ inventoryID cursor.lastId = false then none else some cursor
  | _ => none

/-! ## `List` -/

def allowed (svc : InventoryService) (userId permission : String) : Bool :=
  svc.grants.any fun grant => grant.userId = userId && grant.permissions.contains permission

/-- `authorize`. -/
def authorize (svc : InventoryService) (userId resource : String) :
    Except InventoryListError Unit :=
  let allowed :=
    if resource = "sources" ∨ resource = "sync-runs" then svc.allowed userId "sync:read"
    else if resource = "write" then
      svc.allowed userId "sync:read" && svc.allowed userId "sync:write"
    else false
  if allowed then .ok () else .error .forbidden

/-- What a list starts from: nothing, or what its cursor says. -/
def bind_ (svc : InventoryService) (userId resource : String) (query : InventoryQuery) :
    Except InventoryListError InventoryCursor :=
  let binding : InventoryCursor := ⟨1, userId, resource, inventoryFilterHash query, "", none⟩
  if query.cursor = "" then .ok binding
  else
    match svc.decodeCursor (utf8 query.cursor) with
    | none => .error .invalid
    | some previous =>
        if previous.userId ≠ binding.userId ∨ previous.resource ≠ binding.resource ∨
            previous.filters ≠ binding.filters then
          .error .invalid
        else if resource = "sync-runs" ∧ previous.lastCreatedAt.isNone then .error .invalid
        else .ok previous

/-- `List`. -/
def list (svc : InventoryService) (s : Store) (userId resource parentId : String)
    (query : InventoryQuery) : Except InventoryListError InventoryPage := do
  validateInventoryQuery resource parentId query
  svc.authorize userId resource
  if svc.cursorKey.length < 32 then .error .notReady
  else do
    let limit := if query.limit = 0 then 50 else query.limit
    let binding ← svc.bind_ userId resource query
    match s.list resource ⟨limit, binding.lastId, binding.lastCreatedAt, query.status,
        query.sourceId⟩ with
    | .error text => .error (.message text)
    | .ok result =>
        let next := { binding with
          lastId := result.lastId
          lastCreatedAt := result.lastCreatedAt }
        return ⟨result.items, if result.hasMore then some (svc.encodeCursor next) else none⟩

end InventoryService

/-! ## Cursors read back -/

/-- What a cursor may be made of: its time, if it has one, can be marshalled. -/
def InventoryCursor.printable (c : InventoryCursor) : Prop :=
  ∀ t ∈ c.lastCreatedAt, (formatRFC3339 t).isSome = true

/-- The cursor with the instant that the text of its time denotes. -/
def InventoryCursor.wholeMinutes (c : InventoryCursor) (offset : Int) : InventoryCursor :=
  { c with lastCreatedAt := c.lastCreatedAt.map fun t => t + offset.tmod 60 * 1000000000 }

theorem foldName_cursor : foldName "v" = "V" ∧ foldName "u" = "U" ∧ foldName "r" = "R" ∧
    foldName "f" = "F" ∧ foldName "i" = "I" ∧ foldName "t" = "T" := by decide

/-- The members that every cursor has. -/
theorem assignCursorMembers (c : InventoryCursor) (first : c.version = 1) :
    ([("v", .int c.version), ("u", .str c.userId), ("r", .str c.resource), ("f", .str c.filters),
      ("i", .str c.lastId)].map fun m : String × Json.Scalar => (m.1, m.2.value)).foldlM
        assignCursorMember .zero = some { c with lastCreatedAt := none } := by
  obtain ⟨v, u, r, f, i, -⟩ := foldName_cursor
  have one : int64Range 1 = true := by decide
  simp [first, Json.Scalar.value, assignCursorMember, v, u, r, f, i, assignInt_number, one,
    assignString, InventoryCursor.zero]

theorem assignCursorMember_time (c : InventoryCursor) {offset : Int} {t : Time} {text : List Char}
    (printed : formatRFC3339In offset t = some text) :
    assignCursorMember c ("t", .string (String.ofList text)) =
      some { c with lastCreatedAt := some (t + offset.tmod 60 * 1000000000) } := by
  obtain ⟨-, -, -, -, -, name⟩ := foldName_cursor
  simp [assignCursorMember, name, assignTimePointer, parse_formatIn printed]

/-- The text of a cursor reads back as that cursor, but for the seconds of the zone of its time. -/
theorem unmarshal_marshalInventoryCursor {offset : Int} {c : InventoryCursor} (first : c.version = 1)
    (printable : ∀ t ∈ c.lastCreatedAt, (formatRFC3339In offset t).isSome = true) :
    ∃ text, marshalInventoryCursorIn offset c = some text ∧
      unmarshalInventoryCursor text.toList = some (c.wholeMinutes offset) := by
  have members := assignCursorMembers c first
  unfold marshalInventoryCursorIn InventoryCursor.wholeMinutes
  cases timed : c.lastCreatedAt with
  | none =>
      refine ⟨_, rfl, ?_⟩
      rw [unmarshalInventoryCursor, String.toList_ofList, Json.parse_printObject]
      dsimp only
      rw [members]
      rfl
  | some t =>
      obtain ⟨text, printed⟩ := Option.isSome_iff_exists.mp (printable t timed)
      dsimp only
      rw [printed, Option.map_some]
      refine ⟨_, rfl, ?_⟩
      rw [unmarshalInventoryCursor, String.toList_ofList, Json.parse_printObject]
      dsimp only
      rw [List.map_append, List.foldlM_append, members]
      change (assignCursorMember _ ("t", .string (String.ofList text)) >>= pure) = _
      rw [assignCursorMember_time _ printed]
      rfl

/-! ## The spelling of a cursor -/

/-- A payload, a dot, and the HMAC of the payload in base 64. -/
def InventoryService.spelling (svc : InventoryService) (payload : List UInt8) : List UInt8 :=
  payload ++ 46 :: utf8 (String.ofList (Base64.encode (svc.sign payload)))

theorem latin1_encode (message : List UInt8) :
    latin1 (utf8 (String.ofList (Base64.encode message))) = Base64.encode message :=
  latin1_utf8 fun _ member => (Base64.mem_encode member).2.2.2

/-- A text in base 64 has no dot. -/
theorem dot_notMem_encode (message : List UInt8) :
    46 ∉ utf8 (String.ofList (Base64.encode message)) := by
  intro member
  have dot : '.' ∈ Base64.encode message := by
    rw [← latin1_encode]
    exact List.mem_map.mpr ⟨46, member, rfl⟩
  exact (Base64.mem_encode dot).1 rfl

/-- Two parts: a dot with no other dot on either side. -/
theorem splitOn_eq_pair {value p s : List UInt8} :
    value.splitOn 46 = [p, s] ↔ value = p ++ 46 :: s ∧ 46 ∉ p ∧ 46 ∉ s := by
  constructor
  · intro split_
    have joined : value = p ++ 46 :: s := by
      have whole : List.intercalate [46] (value.splitOn 46) = value := List.intercalate_splitOn 46
      rw [split_] at whole
      simpa using whole.symm
    have parts := split_
    rw [joined, List.splitOn_append_cons_self] at parts
    have count := congrArg List.length parts
    rw [List.length_append] at count
    have one (l : List UInt8) : 0 < (l.splitOn 46).length :=
      List.length_pos_iff.mpr (List.splitOn_ne_nil 46 l)
    have more {l : List UInt8} (member : 46 ∈ l) : 2 ≤ (l.splitOn 46).length := by
      obtain ⟨front, back, rfl⟩ := List.append_of_mem member
      rw [List.splitOn_append_cons_self, List.length_append]
      have := one front
      have := one back
      omega
    simp only [List.length_cons, List.length_nil] at count
    refine ⟨joined, fun member => ?_, fun member => ?_⟩
    · have := more member
      have := one s
      omega
    · have := more member
      have := one p
      omega
  · rintro ⟨rfl, front, back⟩
    rw [List.splitOn_append_cons_self, List.splitOn_eq_singleton front,
      List.splitOn_eq_singleton back]
    rfl

/-- An accepted cursor is spelled as the payload before its dot says. -/
theorem decodeCursor_spelling {svc : InventoryService} {value : List UInt8} {c : InventoryCursor}
    (accepted : svc.decodeCursor value = some c) :
    ∃ payload, 46 ∉ payload ∧ value = svc.spelling payload := by
  unfold InventoryService.decodeCursor at accepted
  split at accepted
  · rename_i payload signature parts
    obtain ⟨rfl, front, -⟩ := splitOn_eq_pair.mp parts
    refine ⟨payload, front, ?_⟩
    obtain ⟨mac, -, rest⟩ := Option.bind_eq_some_iff.mp accepted
    split at rest
    · cases rest
    · rename_i spelled
      split at rest
      · cases rest
      · rename_i signed
        have same : signature = utf8 (String.ofList (Base64.encode (svc.sign payload))) := by
          apply latin1_injective
          rw [latin1_encode, ← not_not.mp signed]
          exact (not_not.mp spelled).symm
        rw [same, InventoryService.spelling]
  · cases accepted

theorem utf8_encodeCursorIn (svc : InventoryService) (offset : Int) (c : InventoryCursor) :
    utf8 (svc.encodeCursorIn offset c) = svc.spelling (utf8 (String.ofList
      (Base64.encode (utf8 ((marshalInventoryCursorIn offset c).getD ""))))) := by
  unfold InventoryService.encodeCursorIn InventoryService.spelling utf8
  simp only [String.toList_ofList, List.flatMap_append, List.flatMap_cons]
  rfl

/-- An issued cursor decodes to the value that it was made of, but for the seconds of the zone of its
time. -/
theorem decode_encodeCursorIn (svc : InventoryService) {offset : Int} {c : InventoryCursor}
    (first : c.version = 1) (valid : inventoryID c.lastId = true)
    (printable : ∀ t ∈ c.lastCreatedAt, (formatRFC3339In offset t).isSome = true) :
    svc.decodeCursor (utf8 (svc.encodeCursorIn offset c)) = some (c.wholeMinutes offset) := by
  obtain ⟨text, marshalled, reads⟩ := unmarshal_marshalInventoryCursor first printable
  rw [utf8_encodeCursorIn, marshalled, Option.getD_some]
  have parts := splitOn_eq_pair.mpr ⟨rfl, dot_notMem_encode (utf8 text),
    dot_notMem_encode (svc.sign (utf8 (String.ofList (Base64.encode (utf8 text)))))⟩
  unfold InventoryService.decodeCursor InventoryService.spelling
  rw [parts]
  dsimp only
  rw [latin1_encode, latin1_encode]
  simp [Base64.decode_encode, runes_utf8, reads, first, valid, InventoryCursor.wholeMinutes]

/-- An issued cursor with a time in UTC decodes to the value that it was made of. -/
theorem decode_encodeCursor (svc : InventoryService) {c : InventoryCursor} (first : c.version = 1)
    (valid : inventoryID c.lastId = true) (printable : c.printable) :
    svc.decodeCursor (utf8 (svc.encodeCursor c)) = some c := by
  have whole : c.wholeMinutes 0 = c := by simp [InventoryCursor.wholeMinutes]
  rw [InventoryService.encodeCursor, decode_encodeCursorIn svc first valid, whole]
  intro t timed
  rw [formatRFC3339In_zero]
  exact printable t timed

/-- A zone that RFC 3339 can write: whole minutes, less than 24 hours. -/
def MinuteZone (offset : Int) : Prop := offset % 60 = 0 ∧ -86400 < offset ∧ offset < 86400

/-- Cursors with times in such zones decode to what they were made of, an accepted text is a payload,
a dot and the HMAC of the payload, and a payload has no other accepted spelling. -/
theorem cursor_exact (svc : InventoryService) :
    (∀ (offset : Int) (c : InventoryCursor), c.version = 1 → inventoryID c.lastId = true →
      (∀ t ∈ c.lastCreatedAt, (0 ≤ t.yearIn offset ∧ t.yearIn offset ≤ 9999) ∧ MinuteZone offset) →
      svc.decodeCursor (utf8 (svc.encodeCursorIn offset c)) = some c) ∧
    (∀ (value : List UInt8) (c : InventoryCursor), svc.decodeCursor value = some c →
      ∃ payload, 46 ∉ payload ∧ value = payload ++
        46 :: utf8 (String.ofList (Base64.encode (hmacSha256 svc.cursorKey payload)))) ∧
    (∀ value value' : List UInt8, (svc.decodeCursor value).isSome = true →
      (svc.decodeCursor value').isSome = true →
      value.takeWhile (· != 46) = value'.takeWhile (· != 46) → value = value') := by
  refine ⟨fun offset c first valid timed => ?_, fun value c accepted => ?_,
    fun value value' accepted accepted' same => ?_⟩
  · rw [decode_encodeCursorIn svc first valid]
    · cases time : c.lastCreatedAt with
      | none =>
          rw [InventoryCursor.wholeMinutes, time, Option.map_none, ← time]
      | some t =>
          have whole : offset.tmod 60 = 0 :=
            Int.tmod_eq_zero_of_dvd (Int.dvd_of_emod_eq_zero (timed t time).2.1)
          have here : t + 0 * 1000000000 = t := by
            unfold Time at *
            omega
          rw [InventoryCursor.wholeMinutes, time, Option.map_some, whole, here, ← time]
    · intro t time
      obtain ⟨⟨low, high⟩, -, short⟩ := timed t time
      exact isSome_formatRFC3339In low high short
  · exact decodeCursor_spelling accepted
  · obtain ⟨c, accepted⟩ := Option.isSome_iff_exists.mp accepted
    obtain ⟨c', accepted'⟩ := Option.isSome_iff_exists.mp accepted'
    obtain ⟨payload, clean, rfl⟩ := decodeCursor_spelling accepted
    obtain ⟨payload', clean', rfl⟩ := decodeCursor_spelling accepted'
    have front {l rest : List UInt8} (clean : 46 ∉ l) :
        (l ++ 46 :: rest).takeWhile (· != 46) = l := by
      have kept : ∀ byte ∈ l, (byte != 46) = true := fun byte member =>
        bne_iff_ne.mpr fun dot => clean (dot ▸ member)
      rw [List.takeWhile_append_of_pos kept, List.takeWhile_cons_of_neg (by decide),
        List.append_nil]
    rw [InventoryService.spelling, InventoryService.spelling, front clean, front clean'] at same
    rw [same]

/-- A run of 1900 in a zone 19 minutes and 32 seconds from UTC, as Amsterdam's was. -/
def localMeanCursor : InventoryCursor :=
  ⟨1, "reader", "sync-runs", "", "0123456789abcdef0123456789abcdef", some 59926608000000000000⟩

theorem cursor_exact_hour : (⟨[], []⟩ : InventoryService).decodeCursor
    (utf8 ((⟨[], []⟩ : InventoryService).encodeCursorIn 3600 localMeanCursor)) =
      some localMeanCursor :=
  (cursor_exact ⟨[], []⟩).1 3600 localMeanCursor rfl (by decide) fun t time => by
    cases time
    exact ⟨by decide, by decide, by decide⟩

/-- The seconds of a zone are lost: the cursor comes back 32 seconds later. -/
theorem cursor_zoneSeconds :
    (localMeanCursor.version = 1 ∧ inventoryID localMeanCursor.lastId = true ∧
      ∀ t ∈ localMeanCursor.lastCreatedAt, 0 ≤ t.yearIn 1172 ∧ t.yearIn 1172 ≤ 9999) ∧
    (⟨[], []⟩ : InventoryService).decodeCursor
      (utf8 ((⟨[], []⟩ : InventoryService).encodeCursorIn 1172 localMeanCursor)) =
        some { localMeanCursor with lastCreatedAt := some 59926608032000000000 } ∧
    { localMeanCursor with lastCreatedAt := some 59926608032000000000 } ≠ localMeanCursor := by
  have years : ∀ t ∈ localMeanCursor.lastCreatedAt, 0 ≤ t.yearIn 1172 ∧ t.yearIn 1172 ≤ 9999 := by
    intro t time
    cases time
    exact ⟨by decide, by decide⟩
  refine ⟨⟨rfl, by decide, years⟩, ?_, by decide⟩
  have printable : ∀ t ∈ localMeanCursor.lastCreatedAt, (formatRFC3339In 1172 t).isSome = true :=
    fun t time => isSome_formatRFC3339In (years t time).1 (years t time).2 (by decide)
  exact decode_encodeCursorIn ⟨[], []⟩ rfl (by decide) printable

end UnifiedInfraTopology
