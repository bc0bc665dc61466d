import UnifiedInfraTopology.Model.Identity
import UnifiedInfraTopology.Lib.Fallible
import UnifiedInfraTopology.Verify.Values
import Mathlib.Data.List.Perm.Subperm

/-!
# Verification of the server uplinks

`verifyServerUplinkGraph` of `cmd/worker/server_uplink.go`: the current uplink edges of a source are
read twice, as bare edges and as paths from the server over the port to the owner of the port, and
the two answers must be the two sides of one correspondence.

The graph is a function from the queries to their answers.  `UplinkVerified` says what the answers
have to be, and `verifyServerUplinkGraph_ok_iff` that the verification succeeds on such answers and on
no others.
-/

namespace UnifiedInfraTopology.Verify

open Lib

/-! ## The program -/

/-- The errors of the verification, one for each message. -/
inductive VerifyError where
  | queryFailed
  | invalidValue
  | invalidCount
  | countMismatch
  | invalidEdgeResponse
  | invalidEdge
  | invalidPath
  | pathMismatch
  | pathsMissing
deriving DecidableEq

/-- The queries, with the source, the relation kind and the snapshot as parameters. -/
inductive UplinkQuery where
  /-- `LOOKUP ON network_relation ... YIELD count(*)`. -/
  | total
  /-- `LOOKUP ON network_relation ... AND synced_at == datetime($snapshot) YIELD ...`. -/
  | current
  /-- `MATCH (s:device)-[u:network_relation]->(p:interface)<-[o:composition_relation]-(t:device) ...`. -/
  | paths

structure ServerUplinkSample where
  serverSN : String
  portUUID : String
  ownerSN : String
  ownerParentTypeId : Int64
  relationId : String
  rank : Int64
  syncedAt : Time
deriving DecidableEq

structure ServerUplinkGraphReport where
  total : Int
  current : Int
  validEndpointCount : Int
  samples : List ServerUplinkSample
deriving DecidableEq

/-- The answers of the graph; `none` is a failed query. -/
abbrev UplinkAnswers : Type := UplinkQuery → Option (List (List GraphValue))

/-- The closure `read`. -/
def readRows (answer : Option (List (List GraphValue))) : Except VerifyError (List (List String)) :=
  match answer with
  | none => .error .queryFailed
  | some rows => (persistenceTable rows).elim (.error .invalidValue) .ok

/-- The closure `count`, after `read`. -/
def readCount (rows : List (List String)) : Except VerifyError Int :=
  match rows with
  | [[cell]] =>
      match parseInt64 cell with
      | some n => if n < 0 then .error .invalidCount else .ok n.toInt
      | none => .error .invalidCount
  | _ => .error .invalidCount

/-- The relation ID that the first loop reads from a row; `none` is its error. -/
def readEdge (snapshot : Time) (seen : List (String × List String))
    (rank relationId createdAt syncedAt : String) : Option String := do
  let rank ← parseInt64 rank
  let created ← persistenceTime createdAt
  let synced ← persistenceTime syncedAt
  let id := persistenceString relationId
  if rank ≤ 0 ∨ id = "" ∨ (seen.lookup id).isSome ∨ created.isZero ∨ synced < created ∨
      synced ≠ snapshot then
    none
  else some id

/-- The first loop: the rows of the edges by their relation ID. -/
def readEdges (snapshot : Time) :
    List (List String) → List (String × List String) → Except VerifyError (List (String × List String))
  | [], seen => .ok seen
  | row :: rows, seen =>
      match row with
      | [_, _, rank, relationId, createdAt, syncedAt] =>
          match readEdge snapshot seen rank relationId createdAt syncedAt with
          | none => .error .invalidEdge
          | some id => readEdges snapshot rows ((id, row) :: seen)
      | _ => .error .invalidEdgeResponse

/-- The relation between a server and a port. -/
def serverUplinkIdentity (sourceId sn port : String) : RelationIdentity where
  sourceId := sourceId
  edgeType := .network
  kind := .serverUplink
  origin := ⟨sourceId, .device, sn⟩
  target := ⟨sourceId, .interface, port⟩
  sourceRelationId := ""
  discriminator := ""

/-- What the second loop makes of a row; `none` is its error. -/
def readPath (sourceId : String) (snapshot : Time) (seen : List (String × List String))
    (matched : List String)
    (sn port owner ownerType relationId rank syncedAt serverType portType ownerSource : String) :
    Option ServerUplinkSample := do
  let identity := serverUplinkIdentity sourceId (persistenceString sn) (persistenceString port)
  let ownerClass ← parseInt64 ownerType
  let serverClass ← parseInt64 serverType
  let id ← identity.id.toOption
  let computed ← identity.rank.toOption
  let stored ← parseInt64 rank
  let synced ← persistenceTime syncedAt
  let src ← identity.origin.vid.toOption
  let dst ← identity.target.vid.toOption
  match seen.lookup id with
  | some (edgeSrc :: edgeDst :: edgeRank :: _) =>
      if ownerClass ≠ 54 ∨ persistenceString owner = "" ∨ serverClass ≠ 52 ∨
          persistenceString portType ≠ "physics" ∨ persistenceString ownerSource ≠ sourceId ∨
          id ≠ persistenceString relationId ∨ computed ≠ stored ∨ synced ≠ snapshot ∨
          persistenceString edgeSrc ≠ src ∨ persistenceString edgeDst ≠ dst ∨ edgeRank ≠ rank ∨
          id ∈ matched then
        none
      else some ⟨persistenceString sn, persistenceString port, persistenceString owner, ownerClass, id,
        computed, synced⟩
  | _ => none

/-- The second loop: the matched relation IDs, and the samples. -/
def readPaths (sourceId : String) (snapshot : Time) (seen : List (String × List String)) :
    List (List String) → List String → List ServerUplinkSample →
      Except VerifyError (List String × List ServerUplinkSample)
  | [], matched, samples => .ok (matched, samples)
  | row :: rows, matched, samples =>
      match row with
      | [sn, port, owner, ownerType, relationId, rank, syncedAt, serverType, portType, ownerSource] =>
          match readPath sourceId snapshot seen matched sn port owner ownerType relationId rank syncedAt
              serverType portType ownerSource with
          | none => .error .pathMismatch
          | some sample =>
              readPaths sourceId snapshot seen rows (sample.relationId :: matched)
                (if samples.length < 5 then samples ++ [sample] else samples)
      | _ => .error .invalidPath

/-- `verifyServerUplinkGraph`; the report that comes with an error is not used. -/
def verifyServerUplinkGraph (answers : UplinkAnswers) (sourceId : String) (snapshot : Time)
    (expected : Int) : Except VerifyError ServerUplinkGraphReport := do
  let table ← readRows (answers .total)
  let total ← readCount table
  if snapshot.isZero then .ok ⟨total, 0, 0, []⟩
  else do
    let rows ← readRows (answers .current)
    if (rows.length : Int) ≠ expected ∨ total < rows.length then .error .countMismatch
    else do
      let seen ← readEdges snapshot rows []
      let paths ← readRows (answers .paths)
      let (matched, samples) ← readPaths sourceId snapshot seen paths [] []
      if (matched.length : Int) ≠ expected ∨ matched.length ≠ seen.length then .error .pathsMissing
      else .ok ⟨total, rows.length, matched.length, samples⟩

/-! ## Well-typed answers -/

/-- A row of the answer to `current`. -/
structure UplinkEdgeRow where
  src : String
  dst : String
  rank : Int64
  relationId : String
  createdAt : String
  syncedAt : String
deriving DecidableEq

/-- A row of the answer to `paths`; the columns that the schema allows to be null may be null. -/
structure UplinkPathRow where
  serverSN : String
  portUUID : String
  ownerSN : String
  ownerType : Option Int64
  relationId : String
  rank : Int64
  syncedAt : String
  serverType : Option Int64
  portType : Option String
  ownerSource : String
deriving DecidableEq

def UplinkEdgeRow.cells (e : UplinkEdgeRow) : List GraphValue :=
  [.text e.src, .text e.dst, .integer e.rank, .text e.relationId, .text e.createdAt, .text e.syncedAt]

def UplinkPathRow.cells (p : UplinkPathRow) : List GraphValue :=
  [.text p.serverSN, .text p.portUUID, .text p.ownerSN, p.ownerType.elim .null .integer,
    .text p.relationId, .integer p.rank, .text p.syncedAt, p.serverType.elim .null .integer,
    p.portType.elim .null .text, .text p.ownerSource]

/-- The graph gives these answers. -/
def uplinkAnswers (total : Int64) (edges : List UplinkEdgeRow) (paths : List UplinkPathRow) :
    UplinkAnswers
  | .total => some [[.integer total]]
  | .current => some (edges.map UplinkEdgeRow.cells)
  | .paths => some (paths.map UplinkPathRow.cells)

/-! ## What is verified -/

/-- The edge has a positive rank, a relation ID, and the times of the snapshot. -/
structure UplinkEdgeRow.Sound (snapshot : Time) (e : UplinkEdgeRow) : Prop where
  ranked : 0 < e.rank
  named : e.relationId ≠ ""
  created : ∃ created, textTime e.createdAt = some created ∧ created.isZero = false ∧ created ≤ snapshot
  synced : textTime e.syncedAt = some snapshot

/-- The path goes over the edge, which is the uplink of its server and port, to a ToR of the source. -/
structure UplinkPathRow.Confirms (sourceId : String) (snapshot : Time) (p : UplinkPathRow)
    (e : UplinkEdgeRow) : Prop where
  id : (serverUplinkIdentity sourceId p.serverSN p.portUUID).id = .ok e.relationId
  rank : (serverUplinkIdentity sourceId p.serverSN p.portUUID).rank = .ok e.rank
  src : (serverUplinkIdentity sourceId p.serverSN p.portUUID).origin.vid = .ok e.src
  dst : (serverUplinkIdentity sourceId p.serverSN p.portUUID).target.vid = .ok e.dst
  /-- The columns of the edge in the path are those of the edge. -/
  over_ : p.relationId = e.relationId ∧ p.rank = e.rank ∧ textTime p.syncedAt = some snapshot
  server : p.serverType = some 52
  owner : p.ownerType = some 54 ∧ p.ownerSN ≠ "" ∧ p.ownerSource = sourceId
  physical : p.portType = some "physics"

/-- The edges are counted and sound, and the paths are theirs, one for each. -/
structure UplinkVerified (sourceId : String) (snapshot : Time) (expected : Int) (total : Int64)
    (edges : List UplinkEdgeRow) (paths : List UplinkPathRow) : Prop where
  counted : (edges.length : Int) = expected ∧ expected ≤ total.toInt
  sound : ∀ e ∈ edges, e.Sound snapshot
  distinct : (edges.map (·.relationId)).Nodup
  owned : ∃ matched, matched.Perm edges ∧ List.Forall₂ (UplinkPathRow.Confirms sourceId snapshot)
    paths matched

/-! ## The texts of the rows -/

def UplinkEdgeRow.texts (e : UplinkEdgeRow) : List String :=
  [jsonText e.src, jsonText e.dst, decimalText e.rank, jsonText e.relationId, jsonText e.createdAt,
    jsonText e.syncedAt]

def UplinkPathRow.texts (p : UplinkPathRow) : List String :=
  [jsonText p.serverSN, jsonText p.portUUID, jsonText p.ownerSN, p.ownerType.elim "null" decimalText,
    jsonText p.relationId, decimalText p.rank, jsonText p.syncedAt,
    p.serverType.elim "null" decimalText, p.portType.elim "null" jsonText, jsonText p.ownerSource]

theorem UplinkEdgeRow.mapM_cells (e : UplinkEdgeRow) : e.cells.mapM persistenceCell = some e.texts := rfl

theorem UplinkPathRow.mapM_cells (p : UplinkPathRow) :
    p.cells.mapM persistenceCell = some p.texts := by
  obtain ⟨_, _, _, ownerType, _, _, _, serverType, portType, _⟩ := p
  cases ownerType <;> cases serverType <;> cases portType <;> rfl

/-! ## The first loop -/

/-- The entry of an edge in `seen`. -/
def UplinkEdgeRow.entry (e : UplinkEdgeRow) : String × List String := (e.relationId, e.texts)

theorem isSome_lookup {β : Type} {id : String} {seen : List (String × β)} :
    (seen.lookup id).isSome = true ↔ id ∈ seen.map Prod.fst := by
  rw [List.lookup_isSome_iff, List.mem_map]
  refine exists_congr fun entry => and_congr_right fun _ => ?_
  rw [beq_iff_eq, eq_comm]

theorem lookup_of_nodup {β : Type} {id : String} {b : β} {seen : List (String × β)}
    (distinct : (seen.map Prod.fst).Nodup) : seen.lookup id = some b ↔ (id, b) ∈ seen := by
  rw [List.lookup_eq_some_iff]
  constructor
  · rintro ⟨front, back, rfl, -⟩
    simp
  · intro member
    obtain ⟨front, back, rfl⟩ := List.append_of_mem member
    refine ⟨front, back, rfl, fun entry inside => ?_⟩
    rw [List.map_append, List.map_cons, List.nodup_append] at distinct
    have apart := distinct.2.2 entry.1 (List.mem_map_of_mem inside) id List.mem_cons_self
    simpa [bne_iff_ne] using apart.symm

/-- An edge that is accepted. -/
theorem readEdge_eq_some_iff {snapshot : Time} {e : UplinkEdgeRow} {seen : List (String × List String)}
    {id : String} :
    readEdge snapshot seen (decimalText e.rank) (jsonText e.relationId) (jsonText e.createdAt)
        (jsonText e.syncedAt) = some id ↔
      (e.Sound snapshot ∧ e.relationId ∉ seen.map Prod.fst) ∧ id = e.relationId := by
  simp only [readEdge, parseInt64_decimalText, persistenceString_jsonText, Option.bind_eq_bind,
    Option.bind_some, Option.bind_eq_some_iff]
  constructor
  · rintro ⟨created, createdAt, synced, syncedAt, accepted⟩
    split at accepted
    · cases accepted
    · rename_i passed
      simp only [not_or, not_not, not_lt, isSome_lookup, Bool.not_eq_true] at passed
      obtain ⟨ranked, named, fresh, nonzero, ordered, rfl⟩ := passed
      refine ⟨⟨⟨Int64.not_le.mp ranked, named, ⟨created, createdAt, nonzero, ordered⟩, syncedAt⟩,
        fresh⟩, (Option.some.inj accepted).symm⟩
  · rintro ⟨⟨sound, fresh⟩, rfl⟩
    obtain ⟨created, createdAt, nonzero, ordered⟩ := sound.created
    refine ⟨created, createdAt, snapshot, sound.synced, if_neg ?_⟩
    simp only [not_or, not_not, not_lt, isSome_lookup, Bool.not_eq_true]
    exact ⟨Int64.not_le.mpr sound.ranked, sound.named, fresh, nonzero, ordered, trivial⟩

/-- One edge is accepted. -/
theorem readEdges_cons {snapshot : Time} {e : UplinkEdgeRow} {rows : List (List String)}
    {seen seen' : List (String × List String)} :
    readEdges snapshot (e.texts :: rows) seen = .ok seen' ↔
      (e.Sound snapshot ∧ e.relationId ∉ seen.map Prod.fst) ∧
        readEdges snapshot rows (e.entry :: seen) = .ok seen' := by
  have stepped : readEdges snapshot (e.texts :: rows) seen =
      match readEdge snapshot seen (decimalText e.rank) (jsonText e.relationId)
        (jsonText e.createdAt) (jsonText e.syncedAt) with
      | none => .error .invalidEdge
      | some id => readEdges snapshot rows ((id, e.texts) :: seen) := rfl
  rw [stepped]
  cases accepted : readEdge snapshot seen (decimalText e.rank) (jsonText e.relationId)
      (jsonText e.createdAt) (jsonText e.syncedAt) with
  | none =>
      refine iff_of_false nofun fun held => ?_
      cases accepted.symm.trans (readEdge_eq_some_iff.mpr ⟨held.1, rfl⟩)
  | some id =>
      obtain ⟨held, rfl⟩ := readEdge_eq_some_iff.mp accepted
      exact (and_iff_right held).symm

/-- **The first loop.** -/
theorem readEdges_ok_iff {snapshot : Time} {edges : List UplinkEdgeRow}
    {seen seen' : List (String × List String)} :
    readEdges snapshot (edges.map UplinkEdgeRow.texts) seen = .ok seen' ↔
      (∀ e ∈ edges, e.Sound snapshot ∧ e.relationId ∉ seen.map Prod.fst) ∧
        (edges.map (·.relationId)).Nodup ∧ seen' = (edges.map UplinkEdgeRow.entry).reverse ++ seen := by
  induction edges generalizing seen with
  | nil =>
      refine ⟨fun ok => ⟨nofun, List.nodup_nil, (Except.ok.inj ok).symm⟩, fun accepted => ?_⟩
      rw [accepted.2.2]
      rfl
  | cons e edges ih =>
      have keys : (e.entry :: seen).map Prod.fst = e.relationId :: seen.map Prod.fst := rfl
      have entries : ((e :: edges).map UplinkEdgeRow.entry).reverse ++ seen =
          (edges.map UplinkEdgeRow.entry).reverse ++ e.entry :: seen := by simp
      rw [List.map_cons, readEdges_cons, ih, keys, entries, List.map_cons, List.nodup_cons,
        List.forall_mem_cons]
      simp only [List.mem_cons, not_or, List.mem_map, not_exists, not_and]
      constructor
      · rintro ⟨here, rest, distinct, whole⟩
        exact ⟨⟨here, fun other member => ⟨(rest other member).1, (rest other member).2.2⟩⟩,
          ⟨fun other member => (rest other member).2.1, distinct⟩, whole⟩
      · rintro ⟨⟨here, rest⟩, ⟨apart, distinct⟩, whole⟩
        exact ⟨here, fun other member => ⟨(rest other member).1, apart other member,
          (rest other member).2⟩, distinct, whole⟩

/-! ## The second loop -/

theorem parseInt64_nullable (n : Option Int64) : parseInt64 (n.elim "null" decimalText) = n := by
  cases n with
  | none => exact parseInt64_null
  | some n => exact parseInt64_decimalText n

theorem persistenceString_nullable (s : Option String) :
    persistenceString (s.elim "null" jsonText) = s.getD "" := by
  cases s with
  | none => exact persistenceString_null
  | some s => exact persistenceString_jsonText s

theorem toOption_eq_some {ε α : Type} {x : Except ε α} {a : α} :
    x.toOption = some a ↔ x = .ok a := by
  cases x <;> simp [Except.toOption]

section

variable {sourceId : String} {snapshot : Time} {edges : List UplinkEdgeRow} {p : UplinkPathRow}
  {matched : List String}

/-- What `seen` has after the first loop. -/
theorem lookup_entries (distinct : (edges.map (·.relationId)).Nodup) {id : String}
    {row : List String} : (edges.map UplinkEdgeRow.entry).reverse.lookup id = some row ↔
      ∃ e ∈ edges, e.relationId = id ∧ e.texts = row := by
  rw [lookup_of_nodup]
  · simp [UplinkEdgeRow.entry]
  · rw [List.map_reverse, List.nodup_reverse, List.map_map]
    exact distinct

/-- `readPath` of a well-typed row. -/
def readPathRow (sourceId : String) (snapshot : Time) (seen : List (String × List String))
    (matched : List String) (p : UplinkPathRow) : Option ServerUplinkSample :=
  readPath sourceId snapshot seen matched (jsonText p.serverSN) (jsonText p.portUUID)
    (jsonText p.ownerSN) (p.ownerType.elim "null" decimalText) (jsonText p.relationId)
    (decimalText p.rank) (jsonText p.syncedAt) (p.serverType.elim "null" decimalText)
    (p.portType.elim "null" jsonText) (jsonText p.ownerSource)

/-- An accepted path goes over an edge that was not matched. -/
theorem confirms_of_readPath (distinct : (edges.map (·.relationId)).Nodup)
    {sample : ServerUplinkSample} (accepted : readPathRow sourceId snapshot
      (edges.map UplinkEdgeRow.entry).reverse matched p = some sample) :
    ∃ e ∈ edges, p.Confirms sourceId snapshot e ∧ e.relationId ∉ matched ∧
      sample.relationId = e.relationId := by
  simp only [readPathRow, readPath, parseInt64_nullable, persistenceString_nullable,
    persistenceString_jsonText, parseInt64_decimalText, Option.bind_eq_bind, Option.bind_some,
    Option.bind_eq_some_iff] at accepted
  obtain ⟨ownerClass, ownerType, serverClass, serverType, id, idOk, computed, rankOk, synced,
    syncedRead, src, srcOk, dst, dstOk, accepted⟩ := accepted
  generalize looked : (edges.map UplinkEdgeRow.entry).reverse.lookup id = row at accepted
  split at accepted
  · obtain ⟨e, member, rfl, texts⟩ := (lookup_entries distinct).mp looked
    simp only [UplinkEdgeRow.texts, List.cons.injEq] at texts
    obtain ⟨rfl, rfl, rfl, rfl⟩ := texts
    split at accepted
    · cases accepted
    · rename_i passed
      simp only [not_or, not_not, persistenceString_jsonText] at passed
      obtain ⟨rfl, owned, rfl, physical, ownerSource, same, rfl, rfl, rfl, rfl, sameRank, fresh⟩ := passed
      cases accepted
      refine ⟨e, member, ⟨toOption_eq_some.mp idOk, ?_, toOption_eq_some.mp srcOk,
        toOption_eq_some.mp dstOk, ⟨same.symm, (decimalText_injective sameRank).symm, syncedRead⟩,
        serverType, ⟨ownerType, owned, ownerSource⟩, ?_⟩, fresh, rfl⟩
      · rw [decimalText_injective sameRank]
        exact toOption_eq_some.mp rankOk
      · cases portType : p.portType with
        | none => rw [portType] at physical; exact absurd physical (by decide)
        | some text => rw [portType] at physical; exact congrArg some physical
  · cases accepted

/-- A path over an edge that was not matched is accepted. -/
theorem readPath_of_confirms (distinct : (edges.map (·.relationId)).Nodup) {e : UplinkEdgeRow}
    (member : e ∈ edges) (confirms : p.Confirms sourceId snapshot e) (fresh : e.relationId ∉ matched) :
    ∃ sample, readPathRow sourceId snapshot (edges.map UplinkEdgeRow.entry).reverse matched p =
      some sample ∧ sample.relationId = e.relationId := by
  have found : (edges.map UplinkEdgeRow.entry).reverse.lookup e.relationId = some e.texts :=
    (lookup_entries distinct).mpr ⟨e, member, rfl, rfl⟩
  obtain ⟨idOk, rankOk, srcOk, dstOk, ⟨sameId, sameRank, synced⟩, serverType, ⟨ownerType, owned, source⟩,
    physical⟩ := confirms
  refine ⟨⟨p.serverSN, p.portUUID, p.ownerSN, 54, e.relationId, e.rank, snapshot⟩, ?_, rfl⟩
  have synced : persistenceTime (jsonText p.syncedAt) = some snapshot := synced
  simp only [readPathRow, readPath, parseInt64_nullable, persistenceString_nullable,
    persistenceString_jsonText, parseInt64_decimalText, Option.bind_eq_bind, Option.bind_some,
    serverType, ownerType, toOption_eq_some.mpr idOk, toOption_eq_some.mpr rankOk,
    toOption_eq_some.mpr srcOk, toOption_eq_some.mpr dstOk, synced, found, UplinkEdgeRow.texts]
  rw [if_neg]
  simp only [sameId, sameRank, source, physical, owned, fresh, ne_eq, not_true_eq_false,
    Option.getD_some, or_false, not_false_eq_true]

theorem readPaths_cons {seen : List (String × List String)} {rows : List (List String)}
    {samples : List ServerUplinkSample} :
    readPaths sourceId snapshot seen (p.texts :: rows) matched samples =
      match readPathRow sourceId snapshot seen matched p with
      | none => .error .pathMismatch
      | some sample => readPaths sourceId snapshot seen rows (sample.relationId :: matched)
          (if samples.length < 5 then samples ++ [sample] else samples) := rfl

/-- The edges that the paths go over: edges of the graph, each once, and none matched before. -/
structure Matching (sourceId : String) (snapshot : Time) (edges : List UplinkEdgeRow)
    (matched : List String) (paths : List UplinkPathRow) (over_ : List UplinkEdgeRow) : Prop where
  confirms : List.Forall₂ (UplinkPathRow.Confirms sourceId snapshot) paths over_
  edges : ∀ e ∈ over_, e ∈ edges
  once : (over_.map (·.relationId)).Nodup
  fresh : ∀ e ∈ over_, e.relationId ∉ matched

/-- **The second loop.** -/
theorem readPaths_ok_iff (distinct : (edges.map (·.relationId)).Nodup) {paths : List UplinkPathRow}
    {samples : List ServerUplinkSample} {matched' : List String} :
    (∃ samples', readPaths sourceId snapshot (edges.map UplinkEdgeRow.entry).reverse
        (paths.map UplinkPathRow.texts) matched samples = .ok (matched', samples')) ↔
      ∃ over_, Matching sourceId snapshot edges matched paths over_ ∧
        matched' = (over_.map (·.relationId)).reverse ++ matched := by
  induction paths generalizing matched samples with
  | nil =>
      constructor
      · rintro ⟨samples', ok⟩
        cases ok
        exact ⟨[], ⟨.nil, nofun, .nil, nofun⟩, rfl⟩
      · rintro ⟨over_, matching, rfl⟩
        cases matching.confirms
        exact ⟨samples, rfl⟩
  | cons p paths ih =>
      rw [List.map_cons, readPaths_cons]
      constructor
      · rintro ⟨samples', ok⟩
        cases accepted : readPathRow sourceId snapshot (edges.map UplinkEdgeRow.entry).reverse matched p with
        | none => rw [accepted] at ok; cases ok
        | some sample =>
            rw [accepted] at ok
            obtain ⟨e, member, confirms, fresh, named⟩ := confirms_of_readPath distinct accepted
            obtain ⟨over_, matching, rfl⟩ := ih.mp ⟨samples', ok⟩
            refine ⟨e :: over_, ⟨.cons confirms matching.confirms, ?_, ?_, ?_⟩, by simp [named]⟩
            · exact List.forall_mem_cons.mpr ⟨member, matching.edges⟩
            · refine List.nodup_cons.mpr ⟨fun again => ?_, matching.once⟩
              obtain ⟨other, inside, same⟩ := List.mem_map.mp again
              exact matching.fresh other inside (by simp [named, same])
            · refine List.forall_mem_cons.mpr ⟨fresh, fun other inside known => ?_⟩
              exact matching.fresh other inside (List.mem_cons_of_mem _ known)
      · rintro ⟨over_, matching, rfl⟩
        obtain ⟨confirmed, member, once, fresh⟩ := matching
        cases confirmed with
        | @cons _ e _ over_ confirms rest =>
            obtain ⟨here, member⟩ := List.forall_mem_cons.mp member
            obtain ⟨new, fresh⟩ := List.forall_mem_cons.mp fresh
            obtain ⟨apart, once⟩ := List.nodup_cons.mp once
            obtain ⟨sample, accepted, named⟩ := readPath_of_confirms distinct here confirms new
            rw [accepted]
            refine ih.mpr ⟨over_, ⟨rest, member, once, fun other inside known => ?_⟩, by simp [named]⟩
            rcases List.mem_cons.mp known with same | old
            · rw [named] at same
              exact apart (List.mem_map.mpr ⟨other, inside, same⟩)
            · exact fresh other inside old

/-! ## The whole verification -/

variable {expected : Int} {total : Int64} {paths : List UplinkPathRow}

theorem readRows_edges (edges : List UplinkEdgeRow) :
    readRows (some (edges.map UplinkEdgeRow.cells)) = .ok (edges.map UplinkEdgeRow.texts) := by
  rw [readRows, persistenceTable_map UplinkEdgeRow.mapM_cells]
  rfl

theorem readRows_paths (paths : List UplinkPathRow) :
    readRows (some (paths.map UplinkPathRow.cells)) = .ok (paths.map UplinkPathRow.texts) := by
  rw [readRows, persistenceTable_map UplinkPathRow.mapM_cells]
  rfl

/-- A matching of as many paths as edges is a correspondence. -/
theorem Matching.perm {over_ : List UplinkEdgeRow}
    (matching : Matching sourceId snapshot edges matched paths over_)
    (same : over_.length = edges.length) : over_.Perm edges := by
  have once : over_.Nodup := matching.once.of_map
  exact (List.subperm_of_subset once matching.edges).perm_of_length_le same.ge

theorem readCount_total (total : Int64) :
    (readRows (uplinkAnswers total edges paths .total) >>= readCount) =
      if total < 0 then .error .invalidCount else .ok total.toInt := by
  have read : readRows (uplinkAnswers total edges paths .total) = .ok [[decimalText total]] := rfl
  rw [read]
  change readCount [[decimalText total]] = _
  rw [readCount, parseInt64_decimalText]

/-- Where the verification succeeds. -/
theorem verifyServerUplinkGraph_ok (nonzero : snapshot.isZero = false)
    {report : ServerUplinkGraphReport}
    (ok : verifyServerUplinkGraph (uplinkAnswers total edges paths) sourceId snapshot expected =
      .ok report) : UplinkVerified sourceId snapshot expected total edges paths := by
  rw [verifyServerUplinkGraph] at ok
  obtain ⟨table, tableRead, ok⟩ := bind_ok ok
  obtain ⟨count, counted, ok⟩ := bind_ok ok
  have counted : (readRows (uplinkAnswers total edges paths .total) >>= readCount) = .ok count := by
    rw [tableRead]
    exact counted
  rw [readCount_total] at counted
  obtain ⟨-, counted⟩ := check_ok counted
  cases counted
  rw [nonzero, if_neg Bool.false_ne_true] at ok
  obtain ⟨rows, read, ok⟩ := bind_ok ok
  cases (readRows_edges edges).symm.trans read
  obtain ⟨many, ok⟩ := check_ok ok
  obtain ⟨seen, first, ok⟩ := bind_ok ok
  obtain ⟨sound, distinct, rfl⟩ := readEdges_ok_iff.mp first
  rw [List.append_nil] at ok
  obtain ⟨pathRows, read, ok⟩ := bind_ok ok
  cases (readRows_paths paths).symm.trans read
  obtain ⟨⟨matched, samples⟩, second, ok⟩ := bind_ok ok
  obtain ⟨over_, matching, rfl⟩ := (readPaths_ok_iff distinct).mp ⟨samples, second⟩
  obtain ⟨all, -⟩ := check_ok ok
  simp only [not_or, not_not, List.length_map, List.append_nil, List.length_reverse, not_lt] at many all
  refine ⟨⟨many.1, many.1 ▸ many.2⟩, fun e member => (sound e member).1, distinct, over_,
    matching.perm all.2, matching.confirms⟩

theorem verifyServerUplinkGraph_of_verified (nonzero : snapshot.isZero = false)
    (verified : UplinkVerified sourceId snapshot expected total edges paths) :
    ∃ report, verifyServerUplinkGraph (uplinkAnswers total edges paths) sourceId snapshot expected =
      .ok report := by
  obtain ⟨⟨counted, enough⟩, sound, distinct, over_, same, confirms⟩ := verified
  have matching : Matching sourceId snapshot edges [] paths over_ :=
    ⟨confirms, fun e member => same.mem_iff.mp member, ((same.map _).nodup_iff).mpr distinct, nofun⟩
  have first : readEdges snapshot (edges.map UplinkEdgeRow.texts) [] =
      .ok (edges.map UplinkEdgeRow.entry).reverse :=
    readEdges_ok_iff.mpr ⟨fun e member => ⟨sound e member, List.not_mem_nil⟩, distinct, by simp⟩
  obtain ⟨samples, second⟩ : ∃ samples, readPaths sourceId snapshot
      (edges.map UplinkEdgeRow.entry).reverse (paths.map UplinkPathRow.texts) [] [] =
        .ok ((over_.map (·.relationId)).reverse ++ [], samples) :=
    (readPaths_ok_iff distinct).mpr ⟨over_, matching, rfl⟩
  have table : readRows (uplinkAnswers total edges paths .total) = .ok [[decimalText total]] := rfl
  have count : readCount [[decimalText total]] = .ok total.toInt := by
    rw [readCount, parseInt64_decimalText]
    refine if_neg fun negative => ?_
    have negative : total.toInt < 0 := Int64.lt_iff_toInt_lt.mp negative
    omega
  have current : readRows (uplinkAnswers total edges paths .current) = _ := readRows_edges edges
  have routes : readRows (uplinkAnswers total edges paths .paths) = _ := readRows_paths paths
  have same := same.length_eq
  refine ⟨⟨total.toInt, edges.length, over_.length, samples⟩, ?_⟩
  simp only [verifyServerUplinkGraph, bind, Except.bind, table, count, nonzero, Bool.false_eq_true,
    ↓reduceIte, current, first, routes, second, List.length_map, List.length_append, List.length_nil,
    List.length_reverse, Nat.add_zero, ne_eq, not_true_eq_false, same]
  rw [if_neg (by omega)]
  exact if_neg (by simp [counted])

/-- Every edge has exactly one path. -/
theorem UplinkVerified.unique
    (verified : UplinkVerified sourceId snapshot expected total edges paths) :
    ∀ e ∈ edges, ∃! i : Nat, ∃ p, paths[i]? = some p ∧ p.Confirms sourceId snapshot e := by
  intro e member
  obtain ⟨over_, same, confirms⟩ := verified.owned
  have distinct : (over_.map (·.relationId)).Nodup :=
    ((same.map _).nodup_iff).mpr verified.distinct
  obtain ⟨i, inside, here⟩ := List.mem_iff_getElem.mp (same.mem_iff.mpr member)
  obtain ⟨length, each⟩ := List.forall₂_iff_get.mp confirms
  refine ⟨i, ⟨paths[i], List.getElem?_eq_getElem (length ▸ inside), ?_⟩, ?_⟩
  · have path := each i (length ▸ inside) inside
    rwa [List.get_eq_getElem, List.get_eq_getElem, here] at path
  · rintro j ⟨p, found, path⟩
    obtain ⟨inside', rfl⟩ := List.getElem?_eq_some_iff.mp found
    have other := each j inside' (length ▸ inside')
    rw [List.get_eq_getElem, List.get_eq_getElem] at other
    -- Both edges have the relation ID that is computed from the path.
    have equal : over_[j].relationId = e.relationId := Except.ok.inj (other.id.symm.trans path.id)
    refine (@List.Nodup.getElem_inj_iff _ _ distinct j (by rw [List.length_map]; exact length ▸ inside')
      i (by rw [List.length_map]; exact inside)).mp ?_
    rw [List.getElem_map, List.getElem_map, equal, here]

end

/-- **The uplinks are verified exactly when the two answers correspond.**  In particular each current
edge then has exactly one path to an owner of its port. -/
theorem verifyServerUplinkGraph_ok_iff (sourceId : String) (snapshot : Time)
    (nonzero : snapshot.isZero = false) (expected : Int) (total : Int64) (edges : List UplinkEdgeRow)
    (paths : List UplinkPathRow) :
    ((∃ report, verifyServerUplinkGraph (uplinkAnswers total edges paths) sourceId snapshot expected =
        .ok report) ↔ UplinkVerified sourceId snapshot expected total edges paths) ∧
      ((∃ report, verifyServerUplinkGraph (uplinkAnswers total edges paths) sourceId snapshot expected =
          .ok report) →
        ∀ e ∈ edges, ∃! i : Nat, ∃ p, paths[i]? = some p ∧ p.Confirms sourceId snapshot e) := by
  have same : (∃ report, verifyServerUplinkGraph (uplinkAnswers total edges paths) sourceId snapshot
      expected = .ok report) ↔ UplinkVerified sourceId snapshot expected total edges paths :=
    ⟨fun ⟨_, ok⟩ => verifyServerUplinkGraph_ok nonzero ok, verifyServerUplinkGraph_of_verified nonzero⟩
  exact ⟨same, fun ok => (same.mp ok).unique⟩

/-! ## Two uplinks -/

/-- The uplink of a server over a port. -/
def exampleIdentity (port : String) : RelationIdentity := serverUplinkIdentity "source" "server" port

/-- Its edge, created at some time and synchronised with a snapshot. -/
def exampleEdge (port createdAt : String) : UplinkEdgeRow :=
  ⟨((exampleIdentity port).origin.vid.toOption).getD "", ((exampleIdentity port).target.vid.toOption).getD "",
    ((exampleIdentity port).rank.toOption).getD 0, ((exampleIdentity port).id.toOption).getD "", createdAt,
    "2026-10-30T01:02:03.000000"⟩

/-- Its path to a ToR. -/
def examplePath (port : String) : UplinkPathRow :=
  ⟨"server", port, "tor", some 54, ((exampleIdentity port).id.toOption).getD "",
    ((exampleIdentity port).rank.toOption).getD 0, "2026-10-30T01:02:03.000000", some 52, some "physics",
    "source"⟩

def exampleSnapshot : Time := (textTime "2026-10-30T01:02:03.000000").getD 0

/-- The edges of two ports, and their paths in the other order. -/
theorem verifyServerUplinkGraph_ok_iff_example :
    ((∃ report, verifyServerUplinkGraph (uplinkAnswers 2
        [exampleEdge "port" "2026-10-29T00:00:00.000000", exampleEdge "port-2" "2026-10-30T01:02:03.000000"]
        [examplePath "port-2", examplePath "port"]) "source" exampleSnapshot 2 = .ok report) ↔
      UplinkVerified "source" exampleSnapshot 2 2
        [exampleEdge "port" "2026-10-29T00:00:00.000000", exampleEdge "port-2" "2026-10-30T01:02:03.000000"]
        [examplePath "port-2", examplePath "port"]) :=
  (verifyServerUplinkGraph_ok_iff "source" exampleSnapshot (by decide +kernel) 2 2
    [exampleEdge "port" "2026-10-29T00:00:00.000000", exampleEdge "port-2" "2026-10-30T01:02:03.000000"]
    [examplePath "port-2", examplePath "port"]).1

/-- A creation time before the year 1 is not zero, and is accepted. -/
theorem verifyServerUplinkGraph_yearZero :
    (∃ report, verifyServerUplinkGraph
        (uplinkAnswers 1 [exampleEdge "port" "0000-06-01T00:00:00.000000"] [examplePath "port"]) "source"
        exampleSnapshot 1 = .ok report) ∧
      ∃ created, textTime (exampleEdge "port" "0000-06-01T00:00:00.000000").createdAt = some created ∧
        created < 0 := by
  obtain ⟨relationId, id⟩ : ∃ relationId, (exampleIdentity "port").id = .ok relationId := ⟨_, rfl⟩
  obtain ⟨rank, ranked⟩ := RelationIdentity.rank_of_id id
  obtain ⟨src, origin⟩ : ∃ src, (exampleIdentity "port").origin.vid = .ok src := ⟨_, rfl⟩
  obtain ⟨dst, target⟩ : ∃ dst, (exampleIdentity "port").target.vid = .ok dst := ⟨_, rfl⟩
  have created : textTime "0000-06-01T00:00:00.000000" =
      some ((textTime "0000-06-01T00:00:00.000000").getD 0) := by decide +kernel
  have synced : textTime "2026-10-30T01:02:03.000000" = some exampleSnapshot := by decide +kernel
  have edge (createdAt : String) : exampleEdge "port" createdAt =
      ⟨src, dst, rank, relationId, createdAt, "2026-10-30T01:02:03.000000"⟩ := by
    simp only [exampleEdge, id, ranked, origin, target, Except.toOption, Option.getD_some]
  have path : examplePath "port" = ⟨"server", "port", "tor", some 54, relationId, rank,
      "2026-10-30T01:02:03.000000", some 52, some "physics", "source"⟩ := by
    simp only [examplePath, id, ranked, Except.toOption, Option.getD_some]
  have positive : 0 < rank := by
    rw [RelationIdentity.rank, id] at ranked
    exact Int64.lt_iff_toInt_lt.mpr (rank_range ranked).1
  have named : relationId ≠ "" := by
    obtain ⟨parts, rfl⟩ := RelationIdentity.id_eq_hashJSON id
    intro empty
    have length := length_hashJSON parts
    rw [empty] at length
    cases length
  refine ⟨verifyServerUplinkGraph_of_verified (by decide +kernel) ?_, _, created, by decide +kernel⟩
  rw [edge, path]
  refine ⟨⟨rfl, by simp⟩, List.forall_mem_singleton.mpr ⟨positive, named, ⟨_, created, ?_, ?_⟩, synced⟩,
    List.nodup_singleton _, _, .refl _, .cons ⟨id, ranked, origin, target, ⟨rfl, rfl, synced⟩, rfl,
      ⟨rfl, by simp, rfl⟩, rfl⟩ .nil⟩
  · decide +kernel
  · decide +kernel

end UnifiedInfraTopology.Verify
