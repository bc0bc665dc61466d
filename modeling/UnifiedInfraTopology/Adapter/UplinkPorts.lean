import UnifiedInfraTopology.Adapter.Uplink

/-!
# Which port a name stands for

The rows of a ToR say what its port names mean: a name stands for the UUID of its row if no other row
has the name and no row with another name has the UUID.  The four maps of `collectUplinkToRPorts` and
the pass at the end compute this, in whatever order the rows come.

* `Scanned`: what the maps say about the rows read so far;
* `collectUplinkToRPorts_stands`: what the result says about the rows of the ToR.
-/

namespace UnifiedInfraTopology

open Lib

namespace Cmdb

/-- The name stands for the port with this UUID. -/
structure StandsFor (rows : List PortRow) (name uuid : String) : Prop where
  named : name ≠ ""
  identified : uuid ≠ ""
  only : rows.filter (fun r => decide (r.name = name)) = [⟨name, uuid⟩]
  alone : ∀ r ∈ rows, r.uuid = uuid → r.name = name

/-- The UUID is on rows with different names. -/
def Ambiguous (rows : List PortRow) (uuid : String) : Prop :=
  ∃ r ∈ rows, ∃ r' ∈ rows, r.uuid = uuid ∧ r'.uuid = uuid ∧ r.name ≠ r'.name

/-- The entry of a name whose rows these are: the UUID of the only row, or the empty text. -/
def entryOf (name : String) : List PortRow → Option (String × String)
  | [] => none
  | [r] => some (name, r.uuid)
  | _ :: _ :: _ => some (name, "")

/-- What the maps say about the rows read so far. -/
structure Scanned (rows : List PortRow) (m : PortMaps) : Prop where
  names : ∀ name, name ∈ m.seenNames ↔ ∃ r ∈ rows, r.name = name
  ports : ∀ name, m.ports.find? name = entryOf name (rows.filter fun r => decide (r.name = name))
  latest : ∀ uuid p, m.seenUUID.find? uuid = some p → ⟨p.2, uuid⟩ ∈ rows
  seen : ∀ r ∈ rows, r.uuid ≠ "" → ∃ p, m.seenUUID.find? r.uuid = some p
  ambiguous : ∀ uuid, uuid ∈ m.ambiguousUUID ↔ uuid ≠ "" ∧ Ambiguous rows uuid

theorem scanned_empty : Scanned [] .empty where
  names name := by simp [PortMaps.empty]
  ports name := rfl
  latest uuid p found := by cases found
  seen r member := (List.not_mem_nil member).elim
  ambiguous uuid := by simp [PortMaps.empty, Ambiguous]

section Add

variable {rows : List PortRow} {m : PortMaps} {row : PortRow}

/-- A further row makes only its own UUID ambiguous. -/
theorem ambiguous_concat {uuid : String} :
    Ambiguous (rows ++ [row]) uuid ↔
      Ambiguous rows uuid ∨ (row.uuid = uuid ∧ ∃ r ∈ rows, r.uuid = uuid ∧ r.name ≠ row.name) := by
  constructor
  · rintro ⟨r, member, r', member', uuid, uuid', apart⟩
    rcases List.mem_append.mp member with old | new
    · rcases List.mem_append.mp member' with old' | new'
      · exact .inl ⟨r, old, r', old', uuid, uuid', apart⟩
      · cases List.mem_singleton.mp new'
        exact .inr ⟨uuid', r, old, uuid, apart⟩
    · cases List.mem_singleton.mp new
      rcases List.mem_append.mp member' with old' | new'
      · exact .inr ⟨uuid, r', old', uuid', apart.symm⟩
      · cases List.mem_singleton.mp new'
        exact (apart rfl).elim
  · rintro (⟨r, old, r', old', same⟩ | ⟨here, r, old, uuid, apart⟩)
    · exact ⟨r, List.mem_append_left _ old, r', List.mem_append_left _ old', same⟩
    · exact ⟨r, List.mem_append_left _ old, row, List.mem_append_right _ List.mem_cons_self, uuid,
        here, apart⟩

/-- The UUID of a row was last seen with another name, if it is on a row with another name and not
ambiguous already. -/
theorem Scanned.collides_iff (scanned : Scanned rows m) (identified : row.uuid ≠ "") :
    (Ambiguous rows row.uuid ∨ m.collides row = true) ↔
      (Ambiguous rows row.uuid ∨ ∃ r ∈ rows, r.uuid = row.uuid ∧ r.name ≠ row.name) := by
  constructor
  · rintro (already | collides)
    · exact .inl already
    · obtain ⟨p, found, apart⟩ := (Option.any_eq_true _ _).mp collides
      exact .inr ⟨_, scanned.latest _ p found, rfl, bne_iff_ne.mp apart⟩
  · rintro (already | ⟨r, member, uuid, apart⟩)
    · exact .inl already
    · obtain ⟨p, found⟩ := scanned.seen r member (uuid ▸ identified)
      rw [uuid] at found
      by_cases same : p.2 = row.name
      · -- The latest row has the name of the new one, so `r` has made the UUID ambiguous before.
        exact .inl ⟨r, member, _, scanned.latest _ p found, uuid, rfl, same ▸ apart⟩
      · exact .inr ((Option.any_eq_true _ _).mpr ⟨p, found, bne_iff_ne.mpr same⟩)

/-- One more row. -/
theorem Scanned.add (scanned : Scanned rows m) (row : PortRow) :
    Scanned (rows ++ [row]) (m.add row) where
  names name := by
    simp only [PortMaps.add, List.mem_cons, scanned.names, List.mem_append, List.mem_nil_iff, or_false]
    constructor
    · rintro (rfl | ⟨r, member, same⟩)
      · exact ⟨row, .inr rfl, rfl⟩
      · exact ⟨r, .inl member, same⟩
    · rintro ⟨r, member | rfl, same⟩
      · exact .inr ⟨r, member, same⟩
      · exact .inl same.symm
  ports name := by
    rw [PortMaps.add, Table.find?_put, List.filter_append]
    by_cases here : row.name = name
    · rw [if_pos here, here]
      simp only [List.filter_cons, here, decide_true, ↓reduceIte, List.filter_nil]
      cases rest : rows.filter fun r => decide (r.name = name) with
      | nil =>
          have fresh : name ∉ m.seenNames := fun inside => by
            obtain ⟨r, member, same⟩ := (scanned.names name).mp inside
            have : r ∈ rows.filter fun r => decide (r.name = name) :=
              List.mem_filter.mpr ⟨member, decide_eq_true same⟩
            rw [rest] at this
            cases this
          rw [if_neg fresh]
          rfl
      | cons r others =>
          have inside : name ∈ m.seenNames := by
            have member : r ∈ rows.filter fun r => decide (r.name = name) :=
              rest ▸ List.mem_cons_self
            obtain ⟨member, same⟩ := List.mem_filter.mp member
            exact (scanned.names name).mpr ⟨r, member, of_decide_eq_true same⟩
          rw [if_pos inside]
          cases others <;> rfl
    · have apart : ([row].filter fun r => decide (r.name = name)) = [] := by
        simp [here]
      rw [if_neg here, scanned.ports, apart, List.append_nil]
  latest uuid p found := by
    simp only [PortMaps.add] at found
    split at found
    · exact List.mem_append_left _ (scanned.latest uuid p found)
    · rw [Table.find?_put] at found
      split at found
      · rename_i same
        cases found
        exact List.mem_append_right _ (List.mem_singleton.mpr (same ▸ rfl))
      · exact List.mem_append_left _ (scanned.latest uuid p found)
  seen r member identified := by
    have before : r ∈ rows → ∃ p, m.seenUUID.find? r.uuid = some p :=
      fun old => scanned.seen r old identified
    simp only [PortMaps.add]
    split
    · rename_i blank
      rcases List.mem_append.mp member with old | new
      · exact before old
      · cases List.mem_singleton.mp new
        exact (identified blank).elim
    · rw [Table.find?_put]
      split
      · exact ⟨_, rfl⟩
      · rename_i apart
        rcases List.mem_append.mp member with old | new
        · exact before old
        · cases List.mem_singleton.mp new
          exact (apart rfl).elim
  ambiguous uuid := by
    have step := @Scanned.collides_iff _ _ row scanned
    rw [ambiguous_concat]
    simp only [PortMaps.add]
    split
    · rename_i both
      obtain ⟨identified, collides⟩ := both
      rw [List.mem_cons, scanned.ambiguous]
      constructor
      · rintro (rfl | ⟨named, already⟩)
        · rcases (step identified).mp (.inr collides) with already | other
          · exact ⟨identified, .inl already⟩
          · exact ⟨identified, .inr ⟨rfl, other⟩⟩
        · exact ⟨named, .inl already⟩
      · rintro ⟨named, already | ⟨here, -⟩⟩
        · exact .inr ⟨named, already⟩
        · exact .inl here.symm
    · rename_i neither
      rw [scanned.ambiguous]
      constructor
      · rintro ⟨named, already⟩
        exact ⟨named, .inl already⟩
      · rintro ⟨named, already | ⟨rfl, other⟩⟩
        · exact ⟨named, already⟩
        · rcases (step named).mpr (.inr other) with already | collides
          · exact ⟨named, already⟩
          · exact (neither ⟨named, collides⟩).elim

end Add

/-! ## The result -/

/-- The entry of a name says which of its rows there are. -/
theorem entryOf_eq_some {name uuid : String} {rows : List PortRow} (identified : uuid ≠ "")
    (named : ∀ r ∈ rows, r.name = name) :
    entryOf name rows = some (name, uuid) ↔ rows = [⟨name, uuid⟩] := by
  rcases rows with _ | ⟨r, _ | ⟨r', rows⟩⟩
  · simp [entryOf]
  · have same := named r List.mem_cons_self
    cases r
    cases same
    simp [entryOf]
  · simp [entryOf, identified.symm]

theorem filter_named (rows : List PortRow) (name : String) :
    ∀ r ∈ rows.filter fun r => decide (r.name = name), r.name = name :=
  fun _ member => of_decide_eq_true (List.mem_filter.mp member).2

/-- After the pass at the end, the UUID of a name is the one the name stands for. -/
theorem Scanned.find?_resolved {rows : List PortRow} {m : PortMaps} (scanned : Scanned rows m)
    {name uuid : String} (identified : uuid ≠ "") :
    m.resolved.find? name = some (name, uuid) ↔ StandsFor rows name uuid := by
  have entry := @entryOf_eq_some name uuid _ identified (filter_named rows name)
  rw [← scanned.ports name] at entry
  have blank : (name, "") ≠ (name, uuid) := fun same => identified (congrArg Prod.snd same).symm
  rw [PortMaps.resolved, Table.find?_update]
  constructor
  · intro found
    obtain ⟨p, stored, same⟩ := Option.map_eq_some_iff.mp found
    have key : p.1 = name := Table.key_of_find? stored
    split at same
    · rw [key] at same
      exact (blank same).elim
    · rename_i kept
      subst same
      have kept := not_or.mp (of_decide_eq_false (Bool.eq_false_of_not_eq_true kept))
      obtain ⟨named, unambiguous⟩ := kept
      have only := entry.mp stored
      refine ⟨named, identified, only, fun r member same => ?_⟩
      by_contra apart
      refine unambiguous ((scanned.ambiguous uuid).mpr ⟨identified, r, member, ⟨name, uuid⟩, ?_⟩)
      have inside : (⟨name, uuid⟩ : PortRow) ∈ rows :=
        (List.mem_filter.mp (only ▸ List.mem_cons_self)).1
      exact ⟨inside, same, rfl, apart⟩
  · intro stands
    have kept : ¬(name = "" ∨ uuid ∈ m.ambiguousUUID) := by
      rintro (empty | ambiguous)
      · exact stands.named empty
      · obtain ⟨-, r, member, r', member', same, same', apart⟩ := (scanned.ambiguous uuid).mp ambiguous
        exact apart ((stands.alone r member same).trans (stands.alone r' member' same').symm)
    rw [entry.mpr stands.only, Option.map_some]
    simp [kept]

section Collect

variable (client : UplinkClient) (cfg : CmdbConfig) (tor : String)

/-- Exactly one device has the SN of the ToR, and it is a switch. -/
def IsToR : Prop :=
  ∃ raw device inst, torDevices client cfg tor = .ok raw ∧ raw.count = 1 ∧
    raw.info.head? = some device ∧ uplinkText device "device_sn" = .ok tor ∧
    uplinkInteger device "parent_type_id" = .ok 54 ∧ uplinkInteger device "inst_id" = .ok inst ∧
    0 < inst

/-- The rows of the ports of the ToR, over all pages. -/
def PortRows (rows : List PortRow) : Prop :=
  ∃ total pages, Paged UplinkData.count UplinkData.size (torPortPage client cfg tor) total 0 pages ∧
    (pages.flatMap (·.info)).map portRow = rows.map .ok

variable {client cfg tor}

/-- The items read so far are the rows that the maps have seen. -/
def ScannedItems (items : List RawItem) (scan : Int64 × PortMaps) : Prop :=
  ∃ rows, items.map portRow = rows.map .ok ∧ Scanned rows scan.2

theorem scannedItems_scanPort {items : List RawItem} {item : RawItem} {scan scan' : Int64 × PortMaps}
    (scanned : ScannedItems items scan) (ok : scanPort tor scan item = .ok scan') :
    ScannedItems (items ++ [item]) scan' := by
  obtain ⟨rows, same, scanned⟩ := scanned
  obtain ⟨⟨inst, row⟩, read, ok⟩ := bind_ok ok
  cases ok
  obtain ⟨inst', -, read⟩ := bind_ok read
  obtain ⟨-, read⟩ := check_ok read
  obtain ⟨row', here, read⟩ := bind_ok read
  obtain ⟨kind, -, read⟩ := bind_ok read
  obtain ⟨owner, -, read⟩ := bind_ok read
  obtain ⟨-, read⟩ := check_ok read
  cases read
  refine ⟨rows ++ [row], ?_, scanned.add row⟩
  rw [List.map_append, List.map_append, same, List.map_singleton, here]
  rfl

/-- The loop over the pages has read all rows. -/
theorem scanned_readPages {scan : Int64 × PortMaps} {changed : CmdbError}
    (ok : readPages UplinkData.count UplinkData.size (torPortPage client cfg tor) changed .unfinished
      (fun scan raw => raw.info.foldlM (scanPort tor) scan) (0, .empty) = .ok scan) :
    ∃ rows, PortRows client cfg tor rows ∧ Scanned rows scan.2 := by
  obtain ⟨first, -, ok⟩ := bind_ok ok
  obtain ⟨total, pages, -, paged, folded⟩ := pageLoop_ok
    (fun start raw answered => (collectUplinkMapPage_ok answered).1) ok
  have scanned : ScannedItems ((([] : List UplinkData) ++ pages).flatMap (·.info)) scan := by
    have nothing : ScannedItems (([] : List UplinkData).flatMap (·.info)) (0, .empty) :=
      ⟨[], rfl, scanned_empty⟩
    refine foldlM_invariant (fun done scan => ScannedItems (done.flatMap (·.info)) scan)
      (fun done raw scan scan' sofar page => ?_) nothing folded
    rw [List.flatMap_append, List.flatMap_singleton]
    exact foldlM_invariant ScannedItems (fun _ _ _ _ => scannedItems_scanPort) sofar page
  obtain ⟨rows, same, scanned⟩ := scanned
  exact ⟨rows, ⟨total, pages, paged, same⟩, scanned⟩

/-- **What the ports of a ToR say.**  When `collectUplinkToRPorts` succeeds, the result has a UUID
under a name where the name stands for this UUID among all rows of the ToR; every other name is absent
or has the empty text.  If the SN does not belong to exactly one device that is a switch, the result
is empty. -/
theorem collectUplinkToRPorts_stands {ports : TextMap}
    (ok : collectUplinkToRPorts client cfg tor = .ok ports) :
    (¬IsToR client cfg tor → ports = .empty) ∧
    (IsToR client cfg tor → ∃ rows, PortRows client cfg tor rows ∧ ∀ name,
      (∀ uuid, uuid ≠ "" → (ports.find? name = some (name, uuid) ↔ StandsFor rows name uuid)) ∧
      ((∀ uuid, ¬StandsFor rows name uuid) →
        ports.find? name = none ∨ ports.find? name = some (name, ""))) := by
  obtain ⟨raw, devices, ok⟩ := bind_ok ok
  split at ok
  · rename_i several
    cases ok
    refine ⟨fun _ => rfl, fun isToR => ?_⟩
    obtain ⟨raw', device, inst, devices', single, -⟩ := isToR
    rw [devices] at devices'
    cases devices'
    exact (several single).elim
  · rename_i single
    cases head : raw.info.head? with
    | none =>
        rw [head] at ok
        cases ok
    | some device =>
        rw [head] at ok
        obtain ⟨sn, named, ok⟩ := bind_ok ok
        obtain ⟨category, classed, ok⟩ := bind_ok ok
        obtain ⟨inst, numbered, ok⟩ := bind_ok ok
        split at ok
        · rename_i mismatch
          cases ok
          refine ⟨fun _ => rfl, fun isToR => ?_⟩
          obtain ⟨raw', device', inst', devices', -, head', named', classed', numbered', positive⟩ :=
            isToR
          rw [devices] at devices'
          cases devices'
          rw [head] at head'
          cases head'
          rw [named] at named'
          rw [classed] at classed'
          rw [numbered] at numbered'
          cases named'
          cases classed'
          cases numbered'
          rcases mismatch with other | other | nonpositive
          · exact (other rfl).elim
          · exact (other rfl).elim
          · exact (Int64.not_le.mpr positive nonpositive).elim
        · rename_i proper
          rw [not_or, not_or, not_not, not_not, Int64.not_le] at proper
          obtain ⟨scan, scanned, ok⟩ := bind_ok ok
          cases ok
          refine ⟨fun other => (other ⟨raw, device, inst, devices, of_not_not single, head,
            proper.1 ▸ named, proper.2.1 ▸ classed, numbered, proper.2.2⟩).elim, fun _ => ?_⟩
          obtain ⟨rows, read, scanned⟩ := scanned_readPages scanned
          refine ⟨rows, read, fun name =>
            ⟨fun uuid identified => scanned.find?_resolved identified, fun stands => ?_⟩⟩
          cases found : scan.2.resolved.find? name with
          | none => exact .inl rfl
          | some p =>
              obtain ⟨key, uuid⟩ := p
              cases Table.key_of_find? found
              by_cases identified : uuid = ""
              · exact .inr (identified ▸ rfl)
              · exact (stands uuid ((scanned.find?_resolved identified).mp found)).elim

end Collect

/-- An item with the given fields. -/
def itemOf (fields : List (String × Json.Value)) : RawItem := fields.foldl Table.put .empty

/-- The answer of an exchange that goes well. -/
def answerOf (count : Int) (items : List (List (String × Json.Value))) : UplinkAnswer :=
  ⟨⟨some true, some 0, some (some count, some (items.map itemOf))⟩, []⟩

/-- A port row of the switch `T1`. -/
def portFields (inst : Int) (name uuid : String) : List (String × Json.Value) :=
  [("inst_id", .number (Json.numberOfInt inst)), ("port_name", .string name),
    ("port_uuid", .string uuid), ("port_type", .string "physics"), ("local_device_sn", .null)]

/-- A switch with three rows on two pages; two of them have the same name. -/
def crossedPorts : UplinkClient where
  contextDone := false
  configFor _ := .ok ⟨.empty, 2⟩
  exchange query :=
    if query.endpoint = deviceViewEndpoint then
      .ok (answerOf 1 [[("inst_id", .number (Json.numberOfInt 7)), ("device_sn", .string "T1"),
        ("parent_type_id", .number (Json.numberOfInt 54))]])
    else if query.start = 0 then
      .ok (answerOf 3 [portFields 1 "p1" "a", portFields 2 "p2" " b "])
    else .ok (answerOf 3 [portFields 3 "p1" "c"])

/-- The name on a single row stands for the UUID of the row. -/
theorem collectUplinkToRPorts_stands_crossed :
    ∃ rows, PortRows crossedPorts ⟨.empty, 2⟩ "T1" rows ∧ StandsFor rows "p2" "b" := by
  have found : (collectUplinkToRPorts crossedPorts ⟨.empty, 2⟩ "T1").toOption.bind
      (·.find? "p2") = some ("p2", "b") := by decide +kernel
  have isToR : IsToR crossedPorts ⟨.empty, 2⟩ "T1" :=
    ⟨_, _, 7, rfl, rfl, rfl, by decide +kernel, by decide +kernel, by decide +kernel, by decide⟩
  cases ok : collectUplinkToRPorts crossedPorts ⟨.empty, 2⟩ "T1" with
  | error e =>
      rw [ok] at found
      cases found
  | ok ports =>
      rw [ok] at found
      obtain ⟨rows, read, stands⟩ := (collectUplinkToRPorts_stands ok).2 isToR
      exact ⟨rows, read, ((stands "p2").1 "b" (by decide)).mp found⟩

end Cmdb

end UnifiedInfraTopology
