import UnifiedInfraTopology.Graph.Convergence
import UnifiedInfraTopology.Graph.Preimages
import UnifiedInfraTopology.Lib.Fallible
import UnifiedInfraTopology.Verify.Values
import Mathlib.Data.Set.Card

/-!
# Verification of the ownership of interfaces

`verifyOwnership` of `cmd/worker/ownership_verify.go`.  It never pairs an edge with an interface: it
counts the current ownership edges, asks for distinct targets, counts the paths whose endpoints carry
their tags, and recomputes the identities of at most five of them.

* `owned_iff`: the counts decide whether every interface has exactly one owner;
* `verifyOwnership_ok_iff`: on the graphs that writes build, the verification succeeds where every
  interface has, and no creation time is zero.
-/

namespace UnifiedInfraTopology.Verify

open Lib

/-! ## The counting argument -/

section Counting

variable {α β κ : Type} {f : α → κ} {g : β → κ} {edges : Set α} {ports : Set β}

/-- Every port is the end of exactly one edge, and every edge ends at a port. -/
structure Owned (f : α → κ) (g : β → κ) (edges : Set α) (ports : Set β) : Prop where
  one : ∀ p ∈ ports, ∃! e, e ∈ edges ∧ f e = g p
  only : ∀ e ∈ edges, ∃ p ∈ ports, f e = g p

/-- **The counts decide.**  As many edges as ports, with distinct ends that are ports. -/
theorem owned_iff (finite : ports.Finite) (apart : Set.InjOn g ports) :
    Owned f g edges ports ↔
      Set.InjOn f edges ∧ (∀ e ∈ edges, ∃ p ∈ ports, f e = g p) ∧ edges.ncard = ports.ncard := by
  constructor
  · intro owned
    have injective : Set.InjOn f edges := by
      intro e member e' member' same
      obtain ⟨p, port, ends⟩ := owned.only e member
      exact (owned.one p port).unique ⟨member, ends⟩ ⟨member', same ▸ ends⟩
    have images : f '' edges = g '' ports := by
      ext k
      constructor
      · rintro ⟨e, member, rfl⟩
        obtain ⟨p, port, ends⟩ := owned.only e member
        exact ⟨p, port, ends.symm⟩
      · rintro ⟨p, port, rfl⟩
        obtain ⟨e, ⟨member, ends⟩, -⟩ := owned.one p port
        exact ⟨e, member, ends⟩
    refine ⟨injective, owned.only, ?_⟩
    rw [← injective.ncard_image, ← apart.ncard_image, images]
  · rintro ⟨injective, only, counted⟩
    have within : f '' edges ⊆ g '' ports := by
      rintro k ⟨e, member, rfl⟩
      obtain ⟨p, port, ends⟩ := only e member
      exact ⟨p, port, ends.symm⟩
    have images : f '' edges = g '' ports := by
      refine Set.eq_of_subset_of_ncard_le within ?_ (finite.image g)
      rw [injective.ncard_image, apart.ncard_image, counted]
    refine ⟨fun p port => ?_, only⟩
    obtain ⟨e, member, ends⟩ : g p ∈ f '' edges := images ▸ Set.mem_image_of_mem g port
    refine ⟨e, ⟨member, ends⟩, fun e' other => ?_⟩
    exact injective other.1 member (other.2.trans ends.symm)

end Counting

/-! ## The program -/

/-- The errors of the verification, one for each message. -/
inductive OwnershipError where
  | queryFailed
  | invalidValue
  | invalidTotal
  | invalidCount
  | countMismatch
  | invalidEdgeResponse
  | invalidRank
  | invalidTimestamp
  | timestampMismatch
  | duplicateRelation
  | multipleOwners
  | invalidEndpointCount
  | endpointMismatch
  | invalidSample
  | invalidIdentity (cause : ModelError)
  | identityMismatch
deriving DecidableEq

/-- The queries, with the source, the relation kind and the snapshot as parameters. -/
inductive OwnershipQuery where
  /-- `LOOKUP ON composition_relation ... | YIELD count(*)`. -/
  | total
  /-- `ownershipGraphQuery(true)`: `LOOKUP ON composition_relation ... synced_at == datetime($snapshot)`. -/
  | current
  /-- `MATCH (d:device)-[e:composition_relation]->(p:interface) ... RETURN count(e)`. -/
  | endpoints
  /-- The same `MATCH`, `RETURN d.device.device_sn, p.interface.port_uuid, ... LIMIT 5`. -/
  | samples

structure OwnershipSample where
  deviceSN : String
  portUUID : String
  relationId : String
  rank : Int64
  syncedAt : Time
deriving DecidableEq

structure OwnershipReport where
  total : Int
  current : Int
  validEndpointCount : Int
  samples : List OwnershipSample
deriving DecidableEq

/-- The answers of the graph; `none` is a failed query. -/
abbrev OwnershipAnswers : Type := OwnershipQuery → Option (List (List GraphValue))

/-- An error comes with the report so far, if there is one. -/
abbrev OwnershipResult (α : Type) : Type := Except (OwnershipError × Option OwnershipReport) α

/-- `return report, err`. -/
def withReport {α : Type} (report : Option OwnershipReport) (x : Except OwnershipError α) :
    OwnershipResult α :=
  x.mapError fun e => (e, report)

@[simp] theorem withReport_eq_ok {α : Type} {report : Option OwnershipReport}
    {x : Except OwnershipError α} {a : α} : withReport report x = .ok a ↔ x = .ok a := by
  cases x <;> simp [withReport, Except.mapError]

/-- The closure `read`. -/
def readTable (answer : Option (List (List GraphValue))) :
    Except OwnershipError (List (List String)) :=
  match answer with
  | none => .error .queryFailed
  | some rows => (persistenceTable rows).elim (.error .invalidValue) .ok

/-- The only cell of a count. -/
def countCell (invalid : OwnershipError) (rows : List (List String)) : Except OwnershipError String :=
  match rows with
  | [[cell]] => .ok cell
  | _ => .error invalid

/-- What the first loop checks of a row; the relation ID and the vertex ID of the port. -/
def readOwnership (snapshot : Time) (seen seenPorts : List String)
    (dst rank relationId createdAt syncedAt : String) : Except OwnershipError (String × String) :=
  match parseInt64 rank with
  | none => .error .invalidRank
  | some rank =>
      if rank ≤ 0 then .error .invalidRank
      else
        let id := persistenceString relationId
        match persistenceTime createdAt with
        | none => .error .invalidTimestamp
        | some created =>
            match persistenceTime syncedAt with
            | none => .error .timestampMismatch
            | some synced =>
                if synced ≠ snapshot ∨ created.isZero ∨ synced < created then
                  .error .timestampMismatch
                else if id ∈ seen then .error .duplicateRelation
                else
                  let port := persistenceString dst
                  if port = "" ∨ port ∈ seenPorts then .error .multipleOwners else .ok (id, port)

/-- The first loop. -/
def readOwnerships (snapshot : Time) :
    List (List String) → List String → List String → Except OwnershipError Unit
  | [], _, _ => .ok ()
  | row :: rows, seen, seenPorts =>
      match row with
      | [_, dst, rank, relationId, createdAt, syncedAt] => do
          let (id, port) ←
            readOwnership snapshot seen seenPorts dst rank relationId createdAt syncedAt
          readOwnerships snapshot rows (id :: seen) (port :: seenPorts)
      | _ => .error .invalidEdgeResponse

/-- The ownership of an interface by a device. -/
def ownershipIdentity (sourceId sn port : String) : RelationIdentity where
  sourceId := sourceId
  edgeType := .composition
  kind := .ownsInterface
  origin := ⟨sourceId, .device, sn⟩
  target := ⟨sourceId, .interface, port⟩
  sourceRelationId := ""
  discriminator := ""

/-- What the second loop makes of a row. -/
def readSample (sourceId sn port relationId rank syncedAt : String) :
    Except OwnershipError OwnershipSample :=
  let identity := ownershipIdentity sourceId (persistenceString sn) (persistenceString port)
  match identity.id with
  | .error e => .error (.invalidIdentity e)
  | .ok id =>
      match identity.rank with
      | .error e => .error (.invalidIdentity e)
      | .ok computed =>
          match parseInt64 rank with
          | none => .error .identityMismatch
          | some stored =>
              if computed ≠ stored ∨ id ≠ persistenceString relationId then .error .identityMismatch
              else
                match persistenceTime syncedAt with
                | none => .error .invalidTimestamp
                | some synced =>
                    .ok ⟨persistenceString sn, persistenceString port, id, computed, synced⟩

/-- The second loop. -/
def readSamples (sourceId : String) :
    List (List String) → OwnershipReport → OwnershipResult OwnershipReport
  | [], report => .ok report
  | row :: rows, report =>
      match row with
      | [sn, port, relationId, rank, syncedAt] => do
          let sample ← withReport (some report) (readSample sourceId sn port relationId rank syncedAt)
          readSamples sourceId rows { report with samples := report.samples ++ [sample] }
      | _ => .error (.invalidSample, some report)

def verifyOwnership (answers : OwnershipAnswers) (sourceId : String) (snapshot : Time)
    (expected : Int) : OwnershipResult OwnershipReport := do
  let totals ← withReport none (readTable (answers .total))
  let cell ← withReport none (countCell .invalidTotal totals)
  let total ← withReport none ((parseInt64 cell).elim (.error .invalidCount) .ok)
  let rows ← withReport none (readTable (answers .current))
  let report : OwnershipReport := ⟨total.toInt, rows.length, 0, []⟩
  if report.current ≠ expected then .error (.countMismatch, some report)
  else do
    withReport (some report) (readOwnerships snapshot rows [] [])
    let matched ← withReport (some report) (readTable (answers .endpoints))
    let cell ← withReport (some report) (countCell .invalidEndpointCount matched)
    let endpoints := (parseInt64 cell).getD 0
    let report := { report with validEndpointCount := endpoints.toInt }
    if (parseInt64 cell).isNone ∨ endpoints.toInt ≠ expected then .error (.endpointMismatch, some report)
    else do
      let samples ← withReport (some report) (readTable (answers .samples))
      readSamples sourceId samples report

/-! ## The answers of a graph -/

/-- An ownership edge of the source. -/
def Ownership (g : Graph) (sourceId : String) : Set EdgeRow :=
  {e | e ∈ g.edges.rows ∧ e.sourceId = sourceId ∧ e.relationKind = RelationKind.ownsInterface.text}

/-- An ownership edge of the snapshot. -/
def CurrentOwnership (g : Graph) (sourceId : String) (snapshot : Time) : Set EdgeRow :=
  {e | e ∈ Ownership g sourceId ∧ e.syncedAt = snapshot}

/-- An interface of the snapshot. -/
def CurrentInterface (g : Graph) (sourceId : String) (snapshot : Time) : Set VertexRow :=
  {p | p ∈ g.vertices.rows ∧ p.tag = .interface ∧ p.sourceId = sourceId ∧ p.syncedAt = snapshot}

/-- A path that the `MATCH` finds: a device, an edge, an interface. -/
structure OwnershipPath where
  device : VertexRow
  edge : EdgeRow
  port : VertexRow

def OwnershipPaths (g : Graph) (sourceId : String) (snapshot : Time) : Set OwnershipPath :=
  {path | (path.device ∈ g.vertices.rows ∧ path.device.tag = .device ∧
      path.device.vid = path.edge.origin ∧ path.device.sourceId = sourceId) ∧
    (path.edge.edgeType = .composition ∧ path.edge ∈ CurrentOwnership g sourceId snapshot) ∧
    path.port.vid = path.edge.target ∧ path.port ∈ CurrentInterface g sourceId snapshot}

/-- The list has each element of the set once. -/
structure Enumerates {α : Type} (items : List α) (s : Set α) : Prop where
  nodup : items.Nodup
  mem : ∀ x, x ∈ items ↔ x ∈ s

theorem Enumerates.ncard {α : Type} {items : List α} {s : Set α} (all : Enumerates items s) :
    s.ncard = items.length := by
  classical
  have same : s = items.toFinset := by
    ext x
    rw [Finset.mem_coe, List.mem_toFinset, all.mem x]
  rw [same, Set.ncard_coe_finset, List.toFinset_card_of_nodup all.nodup]

/-- A row of the answer to `current`; `clock` is `toString` of a stored time. -/
def edgeCells (clock : Time → String) (e : EdgeRow) : List GraphValue :=
  [.text e.origin, .text e.target, .integer e.rank, .text e.relationId, .text (clock e.createdAt),
    .text (clock e.syncedAt)]

/-- A row of the answer to `samples`. -/
def sampleCells (clock : Time → String) (path : OwnershipPath) : List GraphValue :=
  [.text path.device.stableId, .text path.port.stableId, .text path.edge.relationId,
    .integer path.edge.rank, .text (clock path.edge.syncedAt)]

/-- The graph answers every query exactly, the rows in any order.  The snapshot goes into the queries
with microseconds. -/
structure ExactAnswers (g : Graph) (clock : Time → String) (sourceId : String) (snapshot : Time)
    (answers : OwnershipAnswers) : Prop where
  total : ∃ n : Int64, n.toInt = {e ∈ Ownership g sourceId | e.edgeType = .composition}.ncard ∧
    answers .total = some [[.integer n]]
  current : ∃ edges, Enumerates edges
      {e ∈ CurrentOwnership g sourceId (topologyTime snapshot) | e.edgeType = .composition} ∧
    answers .current = some (edges.map (edgeCells clock))
  endpoints : ∃ n : Int64,
    n.toInt = (OwnershipPaths g sourceId (topologyTime snapshot)).ncard ∧
      answers .endpoints = some [[.integer n]]
  samples : ∃ paths : List OwnershipPath, paths.Nodup ∧
    (∀ path ∈ paths, path ∈ OwnershipPaths g sourceId (topologyTime snapshot)) ∧
    paths.length = min 5 (OwnershipPaths g sourceId (topologyTime snapshot)).ncard ∧
    answers .samples = some (paths.map (sampleCells clock))

/-! ## The loops -/

def edgeTexts (clock : Time → String) (e : EdgeRow) : List String :=
  [jsonText e.origin, jsonText e.target, decimalText e.rank, jsonText e.relationId,
    jsonText (clock e.createdAt), jsonText (clock e.syncedAt)]

def sampleTexts (clock : Time → String) (path : OwnershipPath) : List String :=
  [jsonText path.device.stableId, jsonText path.port.stableId, jsonText path.edge.relationId,
    decimalText path.edge.rank, jsonText (clock path.edge.syncedAt)]

theorem readTable_edges (clock : Time → String) (edges : List EdgeRow) :
    readTable (some (edges.map (edgeCells clock))) = .ok (edges.map (edgeTexts clock)) := by
  have each : ∀ e, (edgeCells clock e).mapM persistenceCell = some (edgeTexts clock e) := fun _ => rfl
  rw [readTable, persistenceTable_map each]
  rfl

theorem readTable_samples (clock : Time → String) (paths : List OwnershipPath) :
    readTable (some (paths.map (sampleCells clock))) = .ok (paths.map (sampleTexts clock)) := by
  have each : ∀ path, (sampleCells clock path).mapM persistenceCell = some (sampleTexts clock path) :=
    fun _ => rfl
  rw [readTable, persistenceTable_map each]
  rfl

theorem readTable_count (n : Int64) :
    readTable (some [[.integer n]]) = .ok [[decimalText n]] := rfl

/-- What the first loop asks of one edge. -/
structure Readable (clock : Time → String) (snapshot : Time) (e : EdgeRow) : Prop where
  ranked : 0 < e.rank
  created : ∃ created, textTime (clock e.createdAt) = some created ∧ created.isZero = false ∧
    created ≤ snapshot
  synced : textTime (clock e.syncedAt) = some snapshot
  ended : e.target ≠ ""

section Loops

variable {clock : Time → String} {snapshot : Time} {seen seenPorts : List String}

theorem readOwnership_ok_iff {e : EdgeRow} {id port : String} :
    readOwnership snapshot seen seenPorts (jsonText e.target) (decimalText e.rank)
        (jsonText e.relationId) (jsonText (clock e.createdAt)) (jsonText (clock e.syncedAt)) =
        .ok (id, port) ↔
      (Readable clock snapshot e ∧ e.relationId ∉ seen ∧ e.target ∉ seenPorts) ∧
        id = e.relationId ∧ port = e.target := by
  simp only [readOwnership, parseInt64_decimalText, persistenceString_jsonText]
  constructor
  · intro ok
    obtain ⟨ranked, ok⟩ := check_ok ok
    split at ok
    · cases ok
    rename_i created createdAt
    split at ok
    · cases ok
    rename_i synced syncedAt
    obtain ⟨times, ok⟩ := check_ok ok
    obtain ⟨fresh, ok⟩ := check_ok ok
    obtain ⟨ends, ok⟩ := check_ok ok
    simp only [not_or, not_not, not_lt, Bool.not_eq_true] at times ends
    cases ok
    obtain ⟨rfl, nonzero, ordered⟩ := times
    exact ⟨⟨⟨Int64.not_le.mp ranked, ⟨created, createdAt, nonzero, ordered⟩, syncedAt, ends.1⟩,
      fresh, ends.2⟩, rfl, rfl⟩
  · rintro ⟨⟨readable, fresh, freshPort⟩, rfl, rfl⟩
    obtain ⟨created, createdAt, nonzero, ordered⟩ := readable.created
    have createdAt : persistenceTime (jsonText (clock e.createdAt)) = some created := createdAt
    have syncedAt : persistenceTime (jsonText (clock e.syncedAt)) = some snapshot := readable.synced
    simp only [createdAt, syncedAt]
    rw [if_neg (Int64.not_le.mpr readable.ranked), if_neg, if_neg fresh, if_neg]
    · exact not_or.mpr ⟨readable.ended, freshPort⟩
    · simp only [not_or, not_not, not_lt, Bool.not_eq_true]
      exact ⟨trivial, nonzero, ordered⟩

theorem readOwnerships_cons {e : EdgeRow} {rows : List (List String)} :
    readOwnerships snapshot (edgeTexts clock e :: rows) seen seenPorts = .ok () ↔
      (Readable clock snapshot e ∧ e.relationId ∉ seen ∧ e.target ∉ seenPorts) ∧
        readOwnerships snapshot rows (e.relationId :: seen) (e.target :: seenPorts) = .ok () := by
  have stepped : readOwnerships snapshot (edgeTexts clock e :: rows) seen seenPorts = (do
      let (id, port) ← readOwnership snapshot seen seenPorts (jsonText e.target) (decimalText e.rank)
        (jsonText e.relationId) (jsonText (clock e.createdAt)) (jsonText (clock e.syncedAt))
      readOwnerships snapshot rows (id :: seen) (port :: seenPorts)) := rfl
  rw [stepped]
  constructor
  · intro ok
    obtain ⟨⟨id, port⟩, accepted, rest⟩ := bind_ok ok
    obtain ⟨held, rfl, rfl⟩ := readOwnership_ok_iff.mp accepted
    exact ⟨held, rest⟩
  · rintro ⟨held, rest⟩
    rw [readOwnership_ok_iff.mpr ⟨held, rfl, rfl⟩]
    exact rest

/-- **The first loop.** -/
theorem readOwnerships_ok_iff {edges : List EdgeRow} :
    readOwnerships snapshot (edges.map (edgeTexts clock)) seen seenPorts = .ok () ↔
      (∀ e ∈ edges, Readable clock snapshot e ∧ e.relationId ∉ seen ∧ e.target ∉ seenPorts) ∧
        (edges.map (·.relationId)).Nodup ∧ (edges.map (·.target)).Nodup := by
  induction edges generalizing seen seenPorts with
  | nil => exact iff_of_true rfl ⟨nofun, .nil, .nil⟩
  | cons e edges ih =>
      rw [List.map_cons, readOwnerships_cons, ih]
      simp only [List.map_cons, List.nodup_cons, List.mem_cons, List.mem_map, not_or, forall_eq_or_imp,
        not_exists, not_and]
      constructor
      · rintro ⟨here, later, ids, ports⟩
        exact ⟨⟨here, fun x member => ⟨(later x member).1, (later x member).2.1.2,
          (later x member).2.2.2⟩⟩, ⟨fun x member => (later x member).2.1.1, ids⟩,
          fun x member => (later x member).2.2.1, ports⟩
      · rintro ⟨⟨here, later⟩, ⟨id, ids⟩, port, ports⟩
        exact ⟨here, fun x member => ⟨(later x member).1, ⟨id x member, (later x member).2.1⟩,
          port x member, (later x member).2.2⟩, ids, ports⟩

/-- The sample is the ownership of its device and port, with a time that can be read. -/
structure OwnershipPath.Confirmed (clock : Time → String) (sourceId : String) (path : OwnershipPath) :
    Prop where
  id : (ownershipIdentity sourceId path.device.stableId path.port.stableId).id =
    .ok path.edge.relationId
  rank : (ownershipIdentity sourceId path.device.stableId path.port.stableId).rank =
    .ok path.edge.rank
  synced : (textTime (clock path.edge.syncedAt)).isSome

theorem readSample_of_confirmed {sourceId : String} {path : OwnershipPath}
    (confirmed : path.Confirmed clock sourceId) :
    ∃ sample, readSample sourceId (jsonText path.device.stableId) (jsonText path.port.stableId)
      (jsonText path.edge.relationId) (decimalText path.edge.rank)
      (jsonText (clock path.edge.syncedAt)) = .ok sample := by
  obtain ⟨synced, syncedAt⟩ := Option.isSome_iff_exists.mp confirmed.synced
  have syncedAt : persistenceTime (jsonText (clock path.edge.syncedAt)) = some synced := syncedAt
  refine ⟨⟨path.device.stableId, path.port.stableId, path.edge.relationId, path.edge.rank, synced⟩, ?_⟩
  simp only [readSample, persistenceString_jsonText, confirmed.id, confirmed.rank,
    parseInt64_decimalText, syncedAt, ne_eq, not_true_eq_false, or_self, ↓reduceIte]

/-- **The second loop**, on the right samples. -/
theorem readSamples_of_confirmed {sourceId : String} {paths : List OwnershipPath}
    (confirmed : ∀ path ∈ paths, path.Confirmed clock sourceId) (report : OwnershipReport) :
    ∃ report', readSamples sourceId (paths.map (sampleTexts clock)) report = .ok report' := by
  induction paths generalizing report with
  | nil => exact ⟨report, rfl⟩
  | cons path paths ih =>
      obtain ⟨here, later⟩ := List.forall_mem_cons.mp confirmed
      obtain ⟨sample, read⟩ := readSample_of_confirmed here
      obtain ⟨report', rest⟩ := ih later { report with samples := report.samples ++ [sample] }
      refine ⟨report', ?_⟩
      have stepped : readSamples sourceId (sampleTexts clock path :: paths.map (sampleTexts clock))
          report = (do
            let sample ← withReport (some report) (readSample sourceId (jsonText path.device.stableId)
              (jsonText path.port.stableId) (jsonText path.edge.relationId)
              (decimalText path.edge.rank) (jsonText (clock path.edge.syncedAt)))
            readSamples sourceId (paths.map (sampleTexts clock))
              { report with samples := report.samples ++ [sample] }) := rfl
      rw [List.map_cons, stepped, read]
      exact rest

end Loops

/-! ## Ownership edges of a built graph -/

/-- What the writes keep of an edge.  An ownership has no relation ID of the source and no
discriminator, so its endpoints determine it. -/
structure Written (hashed : Set (List String)) (e : EdgeRow) : Prop where
  ordered : e.createdAt ≤ e.syncedAt
  rank : rankFromRelationId e.relationId = .ok e.rank
  owns : e.relationKind = RelationKind.ownsInterface.text → ∃ sn port,
    e.Identified (ownershipIdentity e.sourceId sn port) ∧
      (ownershipIdentity e.sourceId sn port).hashed ∈ hashed ∧
      (ownershipIdentity e.sourceId sn port).origin.hashed ∈ hashed ∧
      (ownershipIdentity e.sourceId sn port).target.hashed ∈ hashed

theorem ownership_of_normalizes {r n : Relation} (normal : Normalizes r n)
    (kind : n.identity.kind.text = RelationKind.ownsInterface.text) :
    ∃ sn port, n.identity = ownershipIdentity n.identity.sourceId sn port := by
  have valid := normal.validResult
  have kind : n.identity.kind = .ownsInterface :=
    RelationKind.text_injective valid.kind (by decide) kind
  have only : ∀ spec ∈ relationSpecs, spec.kind = .ownsInterface →
      spec = ⟨.composition, .ownsInterface, .device, .interface⟩ := by
    decide
  have spec : r.spec = ⟨.composition, .ownsInterface, .device, .interface⟩ :=
    only r.spec normal.listed (by rw [← normal.spec]; exact kind)
  have unnamed : n.identity.sourceRelationId = "" := by
    refine normal.unnamed ?_
    rw [← normal.keeps.kind, kind]
    decide
  have plain : n.identity.discriminator = "" := by
    have normalized := normal.normal
    rw [spec] at normalized
    cases normalized with
    | plain => rfl
  have spec : n.spec = ⟨.composition, .ownsInterface, .device, .interface⟩ := normal.spec.trans spec
  simp only [Relation.spec, RelationSpec.mk.injEq] at spec
  obtain ⟨edgeType, -, originType, targetType⟩ := spec
  have originSource := valid.originSource
  have targetSource := valid.targetSource
  obtain ⟨⟨sourceId, _, _, ⟨_, _, sn⟩, ⟨_, _, port⟩, _, _⟩, _, _, _⟩ := n
  dsimp only at *
  subst edgeType kind originType targetType originSource targetSource unnamed plain
  exact ⟨sn, port, rfl⟩

theorem written_prepareRelation {hashed : Set (List String)} {relation : Relation} {row : EdgeRow}
    (ordered : relation.createdAt ≤ relation.syncedAt)
    (known : ∀ parts ∈ (TopologyWrite.relation relation).hashed, parts ∈ hashed)
    (ok : prepareRelation relation = .ok row) : Written hashed row := by
  obtain ⟨normalized, normal, id, rank, origin, target, edgeType, kind, sourceId, created, synced⟩ :=
    prepareRelation_ok ok
  have normalizes := normalizeRelation_ok_iff.mp normal
  have keeps := normalizes.keeps
  refine ⟨?_, rank, fun owns => ?_⟩
  · rw [created, synced, keeps.createdAt, keeps.syncedAt]
    exact Time.truncateMicro_mono ordered
  · obtain ⟨sn, port, identity⟩ := ownership_of_normalizes normalizes (kind.symm.trans owns)
    rw [← sourceId] at identity
    have named : row.Identified normalized.identity := ⟨id, edgeType, kind, sourceId, origin, target⟩
    simp only [TopologyWrite.hashed, normal, Except.toOption, Option.elim] at known
    rw [identity] at named known
    exact ⟨sn, port, named, known _ (by simp), known _ (by simp), known _ (by simp)⟩

theorem Written.refreshed {hashed : Set (List String)} {e : EdgeRow} (written : Written hashed e)
    (assignments : List (String × GraphValue)) {t : Time} (later : e.syncedAt ≤ t) :
    Written hashed (e.refreshed assignments t) where
  ordered := written.ordered.trans later
  rank := written.rank
  owns := fun kind => by
    obtain ⟨sn, port, named, known⟩ := written.owns kind
    exact ⟨sn, port, ⟨named.id, named.edgeType, named.kind, named.sourceId, named.origin,
      named.target⟩, known⟩

/-- The creation time of a write is not after its synchronisation time. -/
def OrderedWrite : TopologyWrite → Prop
  | .vertex v => v.createdAt ≤ v.syncedAt
  | .relation r => r.createdAt ≤ r.syncedAt

theorem written_builtGraph {ι : Type} [DecidableEq ι] {hashed : Set (List String)}
    (writes : ι → TopologyWrite) (schedule : List (ι × GraphMove))
    (ordered : ∀ i, OrderedWrite (writes i))
    (known : ∀ i, ∀ parts ∈ (writes i).hashed, parts ∈ hashed) :
    ∀ e ∈ (builtGraph writes schedule).edges.rows, Written hashed e := by
  refine edges_builtGraph writes schedule ?_ fun e assignments t written later =>
    written.refreshed assignments later
  intro i r row shape ok
  have order := ordered i
  have known := known i
  rw [shape] at order known
  exact written_prepareRelation order known ok

section Built

variable {g : Graph} {hashed : Set (List String)} {sourceId : String} {snapshot : Time}
  {clock : Time → String}

/-- An ownership is a composition edge. -/
theorem composition_of_written (written : ∀ e ∈ g.edges.rows, Written hashed e) (s : Set EdgeRow)
    (within : s ⊆ Ownership g sourceId) : {e ∈ s | e.edgeType = .composition} = s := by
  refine Set.sep_eq_self_iff_mem_true.mpr fun e member => ?_
  obtain ⟨stored, -, kind⟩ := within member
  obtain ⟨sn, port, named, -⟩ := (written e stored).owns kind
  exact named.edgeType

theorem finite_ownership : (CurrentOwnership g sourceId snapshot).Finite :=
  (List.finite_toSet g.edges.rows).subset fun _ member => member.1.1

theorem finite_interface : (CurrentInterface g sourceId snapshot).Finite :=
  (List.finite_toSet g.vertices.rows).subset fun _ member => member.1

/-- Interfaces have distinct vertex IDs. -/
theorem injOn_vid : Set.InjOn VertexRow.vid (CurrentInterface g sourceId snapshot) := by
  intro p member p' member' same
  refine g.vertices.eq_of_mem member.1 member'.1 ?_
  rw [VertexRow.key, VertexRow.key, member.2.1, member'.2.1, same]

/-- An edge has at most one path. -/
theorem injOn_edge : Set.InjOn OwnershipPath.edge (OwnershipPaths g sourceId snapshot) := by
  rintro ⟨d, e, p⟩ ⟨⟨device, tag, vid, -⟩, -, target, port⟩ ⟨d', _, p'⟩
    ⟨⟨device', tag', vid', -⟩, -, target', port'⟩ rfl
  have devices : d = d' := by
    refine g.vertices.eq_of_mem device device' ?_
    rw [VertexRow.key, VertexRow.key, tag, tag', vid, vid']
  have ports : p = p' := injOn_vid port port' (target.trans target'.symm)
  rw [devices, ports]

/-- As many paths as edges: every edge has a path. -/
theorem paths_complete : (OwnershipPaths g sourceId snapshot).ncard =
      (CurrentOwnership g sourceId snapshot).ncard ↔
    ∀ e ∈ CurrentOwnership g sourceId snapshot, ∃ path ∈ OwnershipPaths g sourceId snapshot,
      path.edge = e := by
  have within : OwnershipPath.edge '' OwnershipPaths g sourceId snapshot ⊆
      CurrentOwnership g sourceId snapshot := by
    rintro e ⟨path, member, rfl⟩
    exact member.2.1.2
  rw [← injOn_edge.ncard_image]
  constructor
  · intro counted e member
    have all := Set.eq_of_subset_of_ncard_le within counted.ge finite_ownership
    obtain ⟨path, found, same⟩ := all.ge member
    exact ⟨path, found, same⟩
  · intro complete
    rw [within.antisymm complete]

/-- Every interface has one owner, which is stored, and there are no other ownership edges. -/
structure OwnedSnapshot (g : Graph) (sourceId : String) (snapshot : Time) : Prop where
  owners : Owned EdgeRow.target VertexRow.vid (CurrentOwnership g sourceId snapshot)
    (CurrentInterface g sourceId snapshot)
  devices : ∀ e ∈ CurrentOwnership g sourceId snapshot,
    ∃ d ∈ g.vertices.rows, d.tag = .device ∧ d.vid = e.origin

section Identities

variable (collisionFree : Set.InjOn hashJSON hashed) (identified : g.Identified hashed)
  (written : ∀ e ∈ g.edges.rows, Written hashed e)

include collisionFree identified

/-- The vertex under the ID of an identity is the one with that identity. -/
theorem vertex_of_vid {v : VertexRow} (stored : v ∈ g.vertices.rows) {i : EntityIdentity}
    (vid : i.vid = .ok v.vid) (known : i.hashed ∈ hashed) :
    v.sourceId = i.sourceId ∧ v.stableId = i.stableId := by
  obtain ⟨j, named, known'⟩ := identified.vertices v stored
  cases identity_of_vid collisionFree vid named.vid known known'
  exact ⟨named.sourceId, named.stableId⟩

include written

/-- A device and an interface at the ends of an edge make a path. -/
theorem path_of_ends {e : EdgeRow} (current : e ∈ CurrentOwnership g sourceId snapshot)
    {d p : VertexRow} (device : d ∈ g.vertices.rows) (tag : d.tag = .device) (starts : d.vid = e.origin)
    (port : p ∈ CurrentInterface g sourceId snapshot) (ends : e.target = p.vid) :
    (⟨d, e, p⟩ : OwnershipPath) ∈ OwnershipPaths g sourceId snapshot := by
  obtain ⟨⟨stored, source, kind⟩, -⟩ := id current
  obtain ⟨sn, port', named, -, known, -⟩ := (written e stored).owns kind
  have owner := vertex_of_vid collisionFree identified device (starts ▸ named.origin) known
  exact ⟨⟨device, tag, starts, owner.1.trans source⟩, ⟨named.edgeType, current⟩, ends.symm, port⟩

/-- The identity of a path is that of its edge. -/
theorem confirmed_of_path {path : OwnershipPath} (member : path ∈ OwnershipPaths g sourceId snapshot)
    (readable : (textTime (clock path.edge.syncedAt)).isSome) : path.Confirmed clock sourceId := by
  obtain ⟨⟨device, -, starts, -⟩, ⟨-, ⟨stored, source, kind⟩, -⟩, ends, port⟩ := member
  obtain ⟨sn, port', named, -, known, known'⟩ := (written path.edge stored).owns kind
  have owner := vertex_of_vid collisionFree identified device (starts ▸ named.origin) known
  have owned := vertex_of_vid collisionFree identified port.1 (ends ▸ named.target) known'
  have identity : ownershipIdentity sourceId path.device.stableId path.port.stableId =
      ownershipIdentity path.edge.sourceId sn port' := by
    rw [owner.2, owned.2, source]
    rfl
  refine ⟨identity ▸ named.id, ?_, readable⟩
  rw [identity, RelationIdentity.rank, named.id]
  exact (written path.edge stored).rank

omit identified in
/-- Ownership edges have distinct relation IDs. -/
theorem injOn_relationId :
    Set.InjOn EdgeRow.relationId (CurrentOwnership g sourceId snapshot) := by
  rintro e ⟨⟨stored, source, kind⟩, -⟩ e' ⟨⟨stored', source', kind'⟩, -⟩ same
  obtain ⟨sn, port, named, known, -⟩ := (written e stored).owns kind
  obtain ⟨sn', port', named', known', -⟩ := (written e' stored').owns kind'
  have digests := (RelationIdentity.id_ok named.id).2.symm.trans
    (same.trans (RelationIdentity.id_ok named'.id).2)
  have parts := collisionFree known known' digests
  have ends := RelationIdentity.hashed_injective (RelationIdentity.id_ok named.id).1
    (RelationIdentity.id_ok named'.id).1 parts
  rcases ends.named with ⟨own, -⟩ | ⟨origin, target, -⟩
  · exact (own rfl).elim
  refine g.edges.eq_of_mem stored stored' ?_
  have origins := named.origin
  have targets := named.target
  rw [origin, named'.origin] at origins
  rw [target, named'.target] at targets
  have ranks := (written e stored).rank
  rw [same, (written e' stored').rank] at ranks
  rw [EdgeRow.key, EdgeRow.key, ← Except.ok.inj origins, ← Except.ok.inj targets,
    ← Except.ok.inj ranks, named.edgeType, named'.edgeType]
  rfl

end Identities

/-! ## The whole verification -/

variable {answers : OwnershipAnswers} {expected : Int}

/-- What the verification has seen where it succeeds. -/
theorem verifyOwnership_ok {report : OwnershipReport}
    (ok : verifyOwnership answers sourceId snapshot expected = .ok report) :
    ∃ rows endpoints cell, readTable (answers .current) = .ok rows ∧ (rows.length : Int) = expected ∧
      readOwnerships snapshot rows [] [] = .ok () ∧ readTable (answers .endpoints) = .ok [[cell]] ∧
      parseInt64 cell = some endpoints ∧ endpoints.toInt = expected := by
  rw [verifyOwnership] at ok
  obtain ⟨totals, -, ok⟩ := bind_ok ok
  obtain ⟨totalCell, -, ok⟩ := bind_ok ok
  obtain ⟨total, -, ok⟩ := bind_ok ok
  obtain ⟨rows, read, ok⟩ := bind_ok ok
  obtain ⟨counted, ok⟩ := check_ok ok
  obtain ⟨⟨⟩, edges, ok⟩ := bind_ok ok
  obtain ⟨matched, found, ok⟩ := bind_ok ok
  obtain ⟨cell, single, ok⟩ := bind_ok ok
  obtain ⟨enough, -⟩ := check_ok ok
  simp only [withReport_eq_ok] at read edges found single
  have shape : matched = [[cell]] := by
    unfold countCell at single
    split at single <;> cases single
    rfl
  subst shape
  rw [not_or, Bool.not_eq_true, Option.isNone_eq_false_iff, not_not] at enough
  obtain ⟨endpoints, parsed⟩ := Option.isSome_iff_exists.mp enough.1
  rw [parsed] at enough
  exact ⟨rows, endpoints, cell, read, not_not.mp counted, edges, found, parsed, enough.2⟩

theorem verifyOwnership_of_passed {total endpoints : Int64} {edges : List EdgeRow}
    {paths : List OwnershipPath} (totals : answers .total = some [[.integer total]])
    (current : answers .current = some (edges.map (edgeCells clock)))
    (counted : (edges.length : Int) = expected)
    (passed : readOwnerships snapshot (edges.map (edgeTexts clock)) [] [] = .ok ())
    (matched : answers .endpoints = some [[.integer endpoints]]) (all : endpoints.toInt = expected)
    (samples : answers .samples = some (paths.map (sampleCells clock)))
    (confirmed : ∀ path ∈ paths, path.Confirmed clock sourceId) :
    ∃ report, verifyOwnership answers sourceId snapshot expected = .ok report := by
  obtain ⟨report, read⟩ := readSamples_of_confirmed confirmed
    ⟨total.toInt, edges.length, endpoints.toInt, []⟩
  refine ⟨report, ?_⟩
  simp only [verifyOwnership, totals, current, matched, samples, readTable_count, readTable_edges,
    readTable_samples, countCell, parseInt64_decimalText, passed, withReport, Except.mapError,
    bind, Except.bind, Option.elim, Option.getD_some, Option.isNone_some, List.length_map, counted, all,
    ne_eq, not_true_eq_false, Bool.false_eq_true, or_self, ↓reduceIte]
  rw [counted, all] at read
  exact read

section Main

variable (collisionFree : Set.InjOn hashJSON hashed) (identified : g.Identified hashed)
  (written : ∀ e ∈ g.edges.rows, Written hashed e) (micro : topologyTime snapshot = snapshot)
  (exact_ : ExactAnswers g clock sourceId snapshot answers)
  (counted : expected = (CurrentInterface g sourceId snapshot).ncard)
  (reads : ∀ e ∈ CurrentOwnership g sourceId snapshot,
    textTime (clock e.createdAt) = some e.createdAt ∧ textTime (clock e.syncedAt) = some e.syncedAt)

include written micro exact_ counted reads

/-- Where the verification succeeds. -/
theorem owned_of_verifyOwnership {report : OwnershipReport}
    (ok : verifyOwnership answers sourceId snapshot expected = .ok report) :
    OwnedSnapshot g sourceId snapshot ∧
      ∀ e ∈ CurrentOwnership g sourceId snapshot, e.createdAt.isZero = false := by
  obtain ⟨-, ⟨edges, all, current⟩, ⟨n, paths, endpoints⟩, -⟩ := exact_
  rw [micro, composition_of_written written _ fun _ member => member.1] at all
  rw [micro] at paths
  obtain ⟨rows, endpoints', cell, read, enough, passed, found, parsed, matched⟩ := verifyOwnership_ok ok
  rw [current, readTable_edges] at read
  cases read
  rw [endpoints, readTable_count] at found
  cases found
  rw [parseInt64_decimalText] at parsed
  cases parsed
  obtain ⟨readable, -, ports⟩ := readOwnerships_ok_iff.mp passed
  rw [List.length_map] at enough
  have number := all.ncard
  have complete := paths_complete.mp (show (OwnershipPaths g sourceId snapshot).ncard =
    (CurrentOwnership g sourceId snapshot).ncard by omega)
  have injective : Set.InjOn EdgeRow.target (CurrentOwnership g sourceId snapshot) :=
    fun e member e' member' => List.inj_on_of_nodup_map ports ((all.mem e).mpr member)
      ((all.mem e').mpr member')
  refine ⟨⟨(owned_iff finite_interface injOn_vid).mpr ⟨injective, fun e member => ?_, by omega⟩,
    fun e member => ?_⟩, fun e member => ?_⟩
  · obtain ⟨path, found, rfl⟩ := complete e member
    exact ⟨path.port, found.2.2.2, found.2.2.1.symm⟩
  · obtain ⟨path, found, rfl⟩ := complete e member
    exact ⟨path.device, found.1.1, found.1.2.1, found.1.2.2.1⟩
  · obtain ⟨created, createdAt, nonzero, -⟩ := (readable e ((all.mem e).mpr member)).1.created
    rw [(reads e member).1] at createdAt
    cases createdAt
    exact nonzero

include collisionFree identified

/-- Owned interfaces are verified. -/
theorem verifyOwnership_of_owned (owned : OwnedSnapshot g sourceId snapshot)
    (nonzero : ∀ e ∈ CurrentOwnership g sourceId snapshot, e.createdAt.isZero = false) :
    ∃ report, verifyOwnership answers sourceId snapshot expected = .ok report := by
  obtain ⟨⟨total, -, totals⟩, ⟨edges, all, current⟩, ⟨n, paths, endpoints⟩,
    ⟨sampled, -, found, -, samples⟩⟩ := exact_
  rw [micro, composition_of_written written _ fun _ member => member.1] at all
  rw [micro] at paths found
  have readable : ∀ e ∈ CurrentOwnership g sourceId snapshot, Readable clock snapshot e := by
    intro e member
    obtain ⟨created, synced⟩ := reads e member
    obtain ⟨⟨stored, source, kind⟩, current⟩ := id member
    have writtenEdge := written e stored
    obtain ⟨sn, port, named, -⟩ := writtenEdge.owns kind
    refine ⟨Int64.lt_iff_toInt_lt.mpr (rank_range writtenEdge.rank).1,
      ⟨e.createdAt, created, nonzero e member, current ▸ writtenEdge.ordered⟩, current ▸ synced, ?_⟩
    intro empty
    have length := length_hashJSON (ownershipIdentity e.sourceId sn port).target.hashed
    rw [← EntityIdentity.vid_hashed named.target, empty] at length
    cases length
  obtain ⟨injective, ends, same⟩ := (owned_iff finite_interface injOn_vid).mp owned.owners
  have complete : (OwnershipPaths g sourceId snapshot).ncard =
      (CurrentOwnership g sourceId snapshot).ncard := by
    refine paths_complete.mpr fun e member => ?_
    obtain ⟨d, device, tag, starts⟩ := owned.devices e member
    obtain ⟨p, port, target⟩ := ends e member
    exact ⟨⟨d, e, p⟩, path_of_ends collisionFree identified written member device tag starts port target,
      rfl⟩
  have number := all.ncard
  have passed : readOwnerships snapshot (edges.map (edgeTexts clock)) [] [] = .ok () := by
    refine readOwnerships_ok_iff.mpr ⟨fun e member =>
      ⟨readable e ((all.mem e).mp member), List.not_mem_nil, List.not_mem_nil⟩, ?_, ?_⟩
    · exact (List.nodup_map_iff_inj_on all.nodup).mpr fun e member e' member' =>
        injOn_relationId collisionFree written ((all.mem e).mp member) ((all.mem e').mp member')
    · exact (List.nodup_map_iff_inj_on all.nodup).mpr fun e member e' member' =>
        injective ((all.mem e).mp member) ((all.mem e').mp member')
  refine verifyOwnership_of_passed totals current (by omega) passed endpoints (by omega) samples
    fun path member => ?_
  have member := found path member
  refine confirmed_of_path collisionFree identified written member ?_
  rw [(reads path.edge member.2.1.2).2]
  rfl

end Main

end Built

/-- **The verification of ownership.**  On a graph that writes have built, with exact answers, it
succeeds where every interface of the snapshot has exactly one owner, which is stored, and there is no
other ownership edge of the snapshot, provided that no creation time is zero.  `clock` is the text
that the graph gives for a time. -/
theorem verifyOwnership_ok_iff {ι : Type} [DecidableEq ι] (writes : ι → TopologyWrite)
    (schedule : List (ι × GraphMove)) (ordered : ∀ i, OrderedWrite (writes i))
    (collisionFree : Set.InjOn hashJSON {parts | ∃ i, parts ∈ (writes i).hashed}) (sourceId : String)
    (snapshot : Time) (micro : topologyTime snapshot = snapshot) (clock : Time → String)
    (reads : ∀ e ∈ CurrentOwnership (builtGraph writes schedule) sourceId snapshot,
      textTime (clock e.createdAt) = some e.createdAt ∧ textTime (clock e.syncedAt) = some e.syncedAt)
    (answers : OwnershipAnswers)
    (exact_ : ExactAnswers (builtGraph writes schedule) clock sourceId snapshot answers) (expected : Int)
    (counted : expected = (CurrentInterface (builtGraph writes schedule) sourceId snapshot).ncard) :
    (∃ report, verifyOwnership answers sourceId snapshot expected = .ok report) ↔
      OwnedSnapshot (builtGraph writes schedule) sourceId snapshot ∧
        ∀ e ∈ CurrentOwnership (builtGraph writes schedule) sourceId snapshot,
          e.createdAt.isZero = false := by
  have known : ∀ i, ∀ parts ∈ (writes i).hashed, parts ∈ {parts | ∃ i, parts ∈ (writes i).hashed} :=
    fun i parts text => ⟨i, text⟩
  have identified := identified_builtGraph writes schedule known
  have written := written_builtGraph writes schedule ordered known
  constructor
  · rintro ⟨report, ok⟩
    exact owned_of_verifyOwnership written micro exact_ counted reads ok
  · rintro ⟨owned, nonzero⟩
    exact verifyOwnership_of_owned collisionFree identified written micro exact_ counted reads owned
      nonzero

/-! ## One device and its ports -/

@[irreducible] def portOwnedAt : Time := (textTime "2026-10-30T01:02:03.000000").getD 0

/-- A device, and ports of it with their ownerships, which were created at some time. -/
def portOwnedWrites (createdAt : Time) (ports : List String) : List TopologyWrite :=
  .vertex ⟨⟨"s", .device, "device-1"⟩, .empty, portOwnedAt, portOwnedAt⟩ ::
    ports.flatMap fun port => [
      .vertex ⟨⟨"s", .interface, port⟩, .empty, portOwnedAt, portOwnedAt⟩,
      .relation ⟨ownershipIdentity "s" "device-1" port, .empty, createdAt, portOwnedAt⟩]

def portOwnedSchedule (n : Nat) : List (Fin n × GraphMove) :=
  (List.finRange n).map fun i => (i, ⟨.none, []⟩)

abbrev portOwned (createdAt : Time) (ports : List String) : Graph :=
  builtGraph (portOwnedWrites createdAt ports).get (portOwnedSchedule _)

def portOwnedClock (t : Time) : String :=
  if t = 0 then "0001-01-01T00:00:00.000000" else "2026-10-30T01:02:03.000000"

/-- The rows of such a graph: a device, and its ports, each with its ownership. -/
structure OwnedPorts (g : Graph) (createdAt : Time) (d : VertexRow)
    (ports : List (VertexRow × EdgeRow)) : Prop where
  vertices : g.vertices.rows = d :: ports.map (·.1)
  edges : g.edges.rows = ports.map (·.2)
  few : ports.length ≤ 5
  device : d.tag = .device ∧ d.sourceId = "s" ∧ d.stableId = "device-1"
  port : ∀ row ∈ ports, row.1.tag = .interface ∧ row.1.vid = row.2.target ∧ row.1.sourceId = "s" ∧
    row.1.syncedAt = portOwnedAt
  edge : ∀ row ∈ ports, row.2.edgeType = .composition ∧ row.2.origin = d.vid ∧
    row.2.sourceId = "s" ∧ row.2.relationKind = RelationKind.ownsInterface.text
  times : ∀ row ∈ ports, row.2.createdAt = createdAt ∧ row.2.syncedAt = portOwnedAt

/-- What such a graph answers. -/
def portOwnedAnswers (g : Graph) : OwnershipAnswers
  | .total | .endpoints => some [[.integer (Int64.ofNat g.edges.rows.length)]]
  | .current => some (g.edges.rows.map (edgeCells portOwnedClock))
  | .samples => some ((g.vertices.rows.tail.zip g.edges.rows).map fun row => [.text "device-1",
      .text row.1.stableId, .text row.2.relationId, .integer row.2.rank,
      .text (portOwnedClock row.2.syncedAt)])

theorem Enumerates.sep {α : Type} {items : List α} {s : Set α} (all : Enumerates items s)
    {P : α → Prop} (every : ∀ x ∈ items, P x) : Enumerates items {x ∈ s | P x} where
  nodup := all.nodup
  mem x := ⟨fun member => ⟨(all.mem x).mp member, every x member⟩,
    fun member => (all.mem x).mpr member.1⟩

namespace OwnedPorts

variable {createdAt : Time} {d : VertexRow} {ports : List (VertexRow × EdgeRow)} {g : Graph}

theorem ownership (owned : OwnedPorts g createdAt d ports) :
    Enumerates (ports.map (·.2)) (Ownership g "s") where
  nodup := owned.edges ▸ g.edges.nodup.of_map
  mem e := by
    constructor
    · intro member
      obtain ⟨row, inside, rfl⟩ := List.mem_map.mp member
      exact ⟨owned.edges ▸ member, (owned.edge row inside).2.2⟩
    · intro member
      exact owned.edges ▸ member.1

theorem current (owned : OwnedPorts g createdAt d ports) :
    Enumerates (ports.map (·.2)) (CurrentOwnership g "s" portOwnedAt) := by
  refine owned.ownership.sep fun e member => ?_
  obtain ⟨row, inside, rfl⟩ := List.mem_map.mp member
  exact (owned.times row inside).2

theorem composition (owned : OwnedPorts g createdAt d ports) :
    ∀ e ∈ ports.map (·.2), e.edgeType = .composition := by
  intro e member
  obtain ⟨row, inside, rfl⟩ := List.mem_map.mp member
  exact (owned.edge row inside).1

theorem interface (owned : OwnedPorts g createdAt d ports) :
    Enumerates (ports.map (·.1)) (CurrentInterface g "s" portOwnedAt) where
  nodup := (List.nodup_cons.mp (owned.vertices ▸ g.vertices.nodup.of_map)).2
  mem v := by
    constructor
    · intro member
      obtain ⟨row, inside, rfl⟩ := List.mem_map.mp member
      obtain ⟨tag, -, here⟩ := owned.port row inside
      exact ⟨owned.vertices ▸ List.mem_cons_of_mem _ member, tag, here⟩
    · rintro ⟨stored, tag, -⟩
      rw [owned.vertices, List.mem_cons] at stored
      rcases stored with rfl | inside
      · rw [owned.device.1] at tag
        cases tag
      · exact inside

/-- The path to a port. -/
def path (d : VertexRow) (row : VertexRow × EdgeRow) : OwnershipPath := ⟨d, row.2, row.1⟩

theorem paths (owned : OwnedPorts g createdAt d ports) :
    Enumerates (ports.map (path d)) (OwnershipPaths g "s" portOwnedAt) where
  nodup := by
    have edges := owned.ownership.nodup
    rw [show ports.map (·.2) = (ports.map (path d)).map (·.edge) by rw [List.map_map]; rfl] at edges
    exact edges.of_map
  mem := by
    rintro ⟨d', e, p⟩
    constructor
    · intro member
      obtain ⟨row, inside, same⟩ := List.mem_map.mp member
      cases same
      obtain ⟨composition, origin, -⟩ := owned.edge row inside
      exact ⟨⟨by rw [owned.vertices]; exact List.mem_cons_self, owned.device.1, origin.symm,
          owned.device.2.1⟩,
        ⟨composition, (owned.current.mem _).mp (List.mem_map_of_mem inside)⟩,
        (owned.port row inside).2.1, (owned.interface.mem _).mp (List.mem_map_of_mem inside)⟩
    · rintro ⟨⟨stored, tag, -⟩, ⟨-, current⟩, target, port⟩
      obtain ⟨row, inside, rfl⟩ := List.mem_map.mp ((owned.current.mem _).mpr current)
      have first : d' = d := by
        rw [owned.vertices, List.mem_cons] at stored
        refine stored.resolve_right fun among => ?_
        have tagged := ((owned.interface.mem _).mp among).2.1
        rw [tag] at tagged
        cases tagged
      have end_ : p = row.1 := by
        have here := (owned.interface.mem _).mp (List.mem_map_of_mem inside)
        refine g.vertices.eq_of_mem port.1 here.1 (Prod.ext (port.2.1.trans here.2.1.symm) ?_)
        exact target.trans (owned.port row inside).2.1.symm
      rw [first, end_]
      exact List.mem_map_of_mem (f := path d) inside

theorem exactAnswers (owned : OwnedPorts g createdAt d ports) :
    ExactAnswers g portOwnedClock "s" portOwnedAt (portOwnedAnswers g) := by
  have micro : topologyTime portOwnedAt = portOwnedAt := by decide +kernel
  have counted : (Int64.ofNat g.edges.rows.length).toInt = ports.length := by
    rw [owned.edges, List.length_map, Int64.toInt_ofNat_of_lt]
    have few := owned.few
    omega
  have found := owned.paths.ncard
  rw [List.length_map] at found
  have composition := owned.composition
  constructor
  · refine ⟨_, ?_, rfl⟩
    rw [counted, (owned.ownership.sep composition).ncard, List.length_map]
  · refine ⟨_, micro.symm ▸ owned.current.sep composition, ?_⟩
    rw [portOwnedAnswers, owned.edges]
  · refine ⟨_, ?_, rfl⟩
    rw [counted, micro, found]
  · refine ⟨_, owned.paths.nodup, ?_, ?_, ?_⟩
    · rw [micro]
      exact fun path member => (owned.paths.mem path).mp member
    · rw [micro, found, List.length_map, min_eq_right owned.few]
    · rw [portOwnedAnswers, owned.vertices, owned.edges, List.tail_cons, List.zip_map', List.map_map,
        List.map_map]
      simp only [Function.comp_def, sampleCells, path, owned.device.2.2]

theorem owned (owned : OwnedPorts g createdAt d ports) : OwnedSnapshot g "s" portOwnedAt := by
  have apart := List.inj_on_of_nodup_map owned.interface.nodup
  refine ⟨⟨fun p port => ?_, fun e current => ?_⟩, fun e current => ?_⟩
  · obtain ⟨row, inside, rfl⟩ := List.mem_map.mp ((owned.interface.mem _).mpr port)
    refine ⟨row.2, ⟨(owned.current.mem _).mp (List.mem_map_of_mem inside),
      (owned.port row inside).2.1.symm⟩, ?_⟩
    rintro e ⟨current, target⟩
    obtain ⟨row', inside', rfl⟩ := List.mem_map.mp ((owned.current.mem _).mpr current)
    have here := (owned.interface.mem _).mp (List.mem_map_of_mem inside')
    have same : row'.1 = row.1 := by
      refine g.vertices.eq_of_mem here.1 port.1 (Prod.ext (here.2.1.trans port.2.1.symm) ?_)
      exact (owned.port row' inside').2.1.trans target
    rw [apart inside' inside same]
  · obtain ⟨row, inside, rfl⟩ := List.mem_map.mp ((owned.current.mem _).mpr current)
    exact ⟨row.1, (owned.interface.mem _).mp (List.mem_map_of_mem inside),
      (owned.port row inside).2.1.symm⟩
  · obtain ⟨row, inside, rfl⟩ := List.mem_map.mp ((owned.current.mem _).mpr current)
    exact ⟨d, by rw [owned.vertices]; exact List.mem_cons_self, owned.device.1,
      (owned.edge row inside).2.1.symm⟩

theorem reads (owned : OwnedPorts g createdAt d ports)
    (known : createdAt = 0 ∨ createdAt = portOwnedAt) :
    ∀ e ∈ CurrentOwnership g "s" portOwnedAt,
      textTime (portOwnedClock e.createdAt) = some e.createdAt ∧
        textTime (portOwnedClock e.syncedAt) = some e.syncedAt := by
  have zero : textTime (portOwnedClock 0) = some 0 := by decide +kernel
  have at_ : textTime (portOwnedClock portOwnedAt) = some portOwnedAt := by decide +kernel
  intro e current
  obtain ⟨row, inside, rfl⟩ := List.mem_map.mp ((owned.current.mem _).mpr current)
  obtain ⟨created, synced⟩ := owned.times row inside
  rw [created, synced]
  rcases known with rfl | rfl
  · exact ⟨zero, at_⟩
  · exact ⟨at_, at_⟩

end OwnedPorts

def isOwnedPorts (createdAt : Time) (n : Nat) : List VertexRow → List EdgeRow → Bool
  | d :: ports, edges =>
      decide (ports.length = n ∧ edges.length = n ∧ n ≤ 5) &&
        decide (d.tag = .device ∧ d.sourceId = "s" ∧ d.stableId = "device-1") &&
        (ports.zip edges).all fun row =>
          decide ((row.1.tag = .interface ∧ row.1.vid = row.2.target ∧ row.1.sourceId = "s" ∧
              row.1.syncedAt = portOwnedAt) ∧
            (row.2.edgeType = .composition ∧ row.2.origin = d.vid ∧ row.2.sourceId = "s" ∧
              row.2.relationKind = RelationKind.ownsInterface.text) ∧
            row.2.createdAt = createdAt ∧ row.2.syncedAt = portOwnedAt)
  | [], _ => false

theorem ownedPorts_of_is {g : Graph} {createdAt : Time} {n : Nat}
    (is : isOwnedPorts createdAt n g.vertices.rows g.edges.rows = true) :
    ∃ d ports, OwnedPorts g createdAt d ports ∧ ports.length = n := by
  unfold isOwnedPorts at is
  split at is
  · rename_i d ports vertices
    simp only [Bool.and_eq_true, decide_eq_true_eq, List.all_eq_true] at is
    obtain ⟨⟨⟨fst, snd, few⟩, device⟩, rows⟩ := is
    have length : (ports.zip g.edges.rows).length = n := by
      rw [List.length_zip, fst, snd, Nat.min_self]
    refine ⟨d, ports.zip g.edges.rows, ⟨?_, ?_, length ▸ few, device, fun row inside => (rows row inside).1,
      fun row inside => (rows row inside).2.1, fun row inside => (rows row inside).2.2⟩, length⟩
    · rw [vertices, List.map_fst_zip (by omega)]
    · rw [List.map_snd_zip (by omega)]
  · cases is

theorem portOwned_ordered {createdAt : Time} (ordered : createdAt ≤ portOwnedAt) (ports : List String)
    (i : Fin (portOwnedWrites createdAt ports).length) :
    OrderedWrite ((portOwnedWrites createdAt ports).get i) := by
  have every : ∀ write ∈ portOwnedWrites createdAt ports, OrderedWrite write := by
    intro write member
    rw [portOwnedWrites, List.mem_cons, List.mem_flatMap] at member
    rcases member with rfl | ⟨port, -, member⟩
    · exact le_refl portOwnedAt
    · rw [List.mem_cons, List.mem_singleton] at member
      rcases member with rfl | rfl
      · exact le_refl portOwnedAt
      · exact ordered
  exact every _ (List.get_mem _ i)

theorem portOwned_collisionFree : Set.InjOn hashJSON
    {parts | ∃ i, parts ∈ ((portOwnedWrites portOwnedAt ["port-1", "port-2"]).get i).hashed} := by
  have apart : ((((portOwnedWrites portOwnedAt ["port-1", "port-2"]).flatMap (·.hashed)).dedup).map
      hashJSON).Nodup := by
    decide +kernel
  rintro parts ⟨i, text⟩ parts' ⟨j, text'⟩
  exact List.inj_on_of_nodup_map apart
    (List.mem_dedup.mpr (List.mem_flatMap.mpr ⟨_, List.get_mem _ i, text⟩))
    (List.mem_dedup.mpr (List.mem_flatMap.mpr ⟨_, List.get_mem _ j, text'⟩))

/-- A device with two ports. -/
theorem verifyOwnership_ok_iff_ports :
    (∃ report, verifyOwnership (portOwnedAnswers (portOwned portOwnedAt ["port-1", "port-2"])) "s"
        portOwnedAt 2 = .ok report) ↔
      OwnedSnapshot (portOwned portOwnedAt ["port-1", "port-2"]) "s" portOwnedAt ∧
        ∀ e ∈ CurrentOwnership (portOwned portOwnedAt ["port-1", "port-2"]) "s" portOwnedAt,
          e.createdAt.isZero = false := by
  have is : (let g := portOwned portOwnedAt ["port-1", "port-2"]
      isOwnedPorts portOwnedAt 2 g.vertices.rows g.edges.rows) = true := by
    decide +kernel
  obtain ⟨d, ports, owned, two⟩ := ownedPorts_of_is is
  have counted : (2 : Int) =
      (CurrentInterface (portOwned portOwnedAt ["port-1", "port-2"]) "s" portOwnedAt).ncard := by
    rw [owned.interface.ncard, List.length_map, two]
    rfl
  exact verifyOwnership_ok_iff _ _ (portOwned_ordered (le_refl _) _) portOwned_collisionFree "s"
    portOwnedAt (by decide +kernel) portOwnedClock (owned.reads (.inr rfl)) _ owned.exactAnswers 2 counted

/-- An ownership created in the first microsecond of the year 1 is stored with the zero time.  Its port
has one owner, which is stored, and is still refused. -/
theorem verifyOwnership_zeroCreated :
    (∀ i, OrderedWrite ((portOwnedWrites 1 ["port-1"]).get i)) ∧
      ExactAnswers (portOwned 1 ["port-1"]) portOwnedClock "s" portOwnedAt
        (portOwnedAnswers (portOwned 1 ["port-1"])) ∧
      (∀ e ∈ CurrentOwnership (portOwned 1 ["port-1"]) "s" portOwnedAt,
        textTime (portOwnedClock e.createdAt) = some e.createdAt ∧
          textTime (portOwnedClock e.syncedAt) = some e.syncedAt) ∧
      (1 : Int) = (CurrentInterface (portOwned 1 ["port-1"]) "s" portOwnedAt).ncard ∧
      OwnedSnapshot (portOwned 1 ["port-1"]) "s" portOwnedAt ∧
      ¬∃ report, verifyOwnership (portOwnedAnswers (portOwned 1 ["port-1"])) "s" portOwnedAt 1 =
        .ok report := by
  have is : (let g := portOwned 1 ["port-1"]
      isOwnedPorts 0 1 g.vertices.rows g.edges.rows) = true := by
    decide +kernel
  have ordered := portOwned_ordered (show (1 : Time) ≤ portOwnedAt by decide +kernel) ["port-1"]
  have micro : topologyTime portOwnedAt = portOwnedAt := by decide +kernel
  obtain ⟨d, ports, owned, one⟩ := ownedPorts_of_is is
  have counted : (1 : Int) = (CurrentInterface (portOwned 1 ["port-1"]) "s" portOwnedAt).ncard := by
    rw [owned.interface.ncard, List.length_map, one]
    rfl
  have written := written_builtGraph _ (portOwnedSchedule _) ordered fun _ _ _ => Set.mem_univ _
  refine ⟨ordered, owned.exactAnswers, owned.reads (.inl rfl), counted, owned.owned, ?_⟩
  rintro ⟨report, ok⟩
  obtain ⟨row, rfl⟩ := List.length_eq_one_iff.mp one
  have nonzero := (owned_of_verifyOwnership written micro owned.exactAnswers counted
    (owned.reads (.inl rfl)) ok).2 row.2 ((owned.current.mem _).mp (List.mem_singleton_self _))
  rw [(owned.times row (List.mem_singleton_self _)).1] at nonzero
  cases nonzero

end UnifiedInfraTopology.Verify
