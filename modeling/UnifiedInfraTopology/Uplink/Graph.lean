import UnifiedInfraTopology.Model.Normalization
import UnifiedInfraTopology.Uplink.System
import UnifiedInfraTopology.Uplink.Traversal

/-!
# What a run of the server uplinks makes of the graph

`run_graph` is about every execution of `ServerUplinkWorker.Run` over a graph: what was stored stays,
and what is new are edges of links whose vertices and ownership were read.  `UplinkRan` collects what
is known of an execution; `WrittenRow` is the row of a link, and `LinkStored` says what its check has
found.
-/

namespace UnifiedInfraTopology

open Lib

namespace ServerUplink

section

variable {allowed : UplinkPage → Prop} {worker : ServerUplinkWorker} {source : Source}
  {snapshot : Time} {first : Graph} {outcome : Outcome RunError ServerUplinkResult}
  {s : List UplinkEvent × Graph} {e : EdgeRow}

/-! ## Executions -/

variable (allowed source snapshot first) in
/-- What is known after an execution. -/
structure UplinkRan (outcome : Outcome RunError ServerUplinkResult) (s : List UplinkEvent × Graph) :
    Prop where
  sound : UplinkSound allowed first s
  allowed : WritesAllowed first.uplinkReads source snapshot s.1
  finished : ∀ result, outcome = .ok result → Finished first.uplinkReads source snapshot s.1 result

theorem uplinkRan {script : List UplinkTurn} (n : Nat)
    (fair : ∀ m ∈ script, ∀ page, m.move.page = .ok page → allowed page) :
    UplinkRan allowed source snapshot first
      ((run worker source snapshot n).run uplinkHandler script ([], first)).1
      ((run worker source snapshot n).run uplinkHandler script ([], first)).2.1 := by
  lift script to List {m : UplinkTurn // ∀ page, m.move.page = .ok page → allowed page} using fair
  rw [Prog.run_restrict]
  obtain ⟨⟨moves, projected⟩, sound⟩ := Prog.Simulates.run simulates_uplink
    (s := ([], first)) (readsFirst_run worker source snapshot n) (uplinkSound_start first) script
  have writes : WritesAllowed first.uplinkReads source snapshot
      ((run worker source snapshot n).run (uplinkWorld first.uplinkReads) moves []).2.1 :=
    Prog.issues_run (K := WritesAllowed first.uplinkReads source snapshot)
      (fun c move log issued held => held.call issued) (issues_run worker n)
      (fun before relation answer after parts => by simp at parts) moves
  have finished : ∀ result,
      ((run worker source snapshot n).run (uplinkWorld first.uplinkReads) moves []).1 = .ok result →
        Finished first.uplinkReads source snapshot
          ((run worker source snapshot n).run (uplinkWorld first.uplinkReads) moves []).2.1 result :=
    (Prog.contract_run (Prog.shrinking_true _) (ensures_run worker n) moves trivial).1
  simp only at projected
  rw [projected] at writes finished
  exact ⟨sound, writes, finished⟩

/-! ## The rows of the links -/

/-- The row that is written for a link. -/
def WrittenRow (snapshot : Time) (c : ServerUplinkCandidate) (w : EdgeRow) : Prop :=
  prepareRelation (relationOf snapshot c.identity) = .ok w

theorem WrittenRow.syncedAt {c : ServerUplinkCandidate} {w : EdgeRow}
    (written : WrittenRow snapshot c w) : w.syncedAt = topologyTime snapshot := by
  obtain ⟨normalized, normal, -, -, -, -, -, -, -, -, synced⟩ := prepareRelation_ok written
  exact synced.trans (congrArg topologyTime (normalizeRelation_ok_iff.mp normal).keeps.syncedAt)

variable (first source) in
/-- The server, the interface and the ToR of a link are stored, and the ToR is the only owner of the
interface. -/
structure LinkStored (c : ServerUplinkCandidate) : Prop where
  vertices : ∀ endpoint ∈ endpoints source c, ∃ vid v, endpoint.vid = .ok vid ∧
    first.vertices.find? (endpoint.entityType, vid) = some v
  owned : ∃ serverVid portVid row, EndpointsOwned first c.identity.origin (torIdentity source c.tor)
    c.identity.target serverVid portVid row

/-- What the check of a link has found in the graph. -/
theorem linkStored_of_valid {c : ServerUplinkCandidate} (valid : Valid first.uplinkReads source c = true) :
    LinkStored source first c := by
  rw [Valid, Bool.and_eq_true, List.all_eq_true] at valid
  obtain ⟨exist, owned⟩ := valid
  refine ⟨fun endpoint member => ?_, serverUplinkEndpointsValid_true (of_decide_eq_true owned)⟩
  have stored := exist endpoint member
  simp only [Graph.uplinkReads] at stored
  obtain ⟨vid, hashed, stored⟩ := (Option.any_eq_true _ _).mp stored
  obtain ⟨v, found⟩ := Option.isSome_iff_exists.mp stored
  refine ⟨vid, v, ?_, found⟩
  cases named : endpoint.vid with
  | error e =>
      rw [named] at hashed
      cases hashed
  | ok vid' =>
      rw [named] at hashed
      cases hashed
      rfl

/-- A written relation is that of a valid link of a whole first pass. -/
theorem UplinkRan.link (ran : UplinkRan allowed source snapshot first outcome s) {relation : Relation}
    (member : relation ∈ writes s.1) : ∃ before pages pass c,
      AllRead first.uplinkReads source before pages pass ∧ before ⊆ s.1 ∧ c ∈ distinctLinks pages ∧
        Valid first.uplinkReads source c = true ∧ relation = relationOf snapshot c.identity := by
  obtain ⟨⟨call, answer⟩, inside, here⟩ := List.mem_filterMap.mp member
  cases call with
  | upsertRelation r =>
      cases here
      obtain ⟨before, after, parts⟩ := List.append_of_mem inside
      obtain ⟨pages, pass, read, ⟨c, listed, valid, same⟩, -⟩ := ran.allowed _ _ _ _ parts
      exact ⟨before, pages, pass, c, read, parts ▸ List.subset_append_left _ _, listed, valid, same⟩
  | _ => cases here

/-- An edge is one of the first graph, or was last written for a valid link. -/
theorem UplinkRan.edge (ran : UplinkRan allowed source snapshot first outcome s)
    (stored : e ∈ s.2.edges.rows) : first.edges.find? e.key = some e ∨
      ∃ before pages pass c w, AllRead first.uplinkReads source before pages pass ∧ before ⊆ s.1 ∧
        c ∈ distinctLinks pages ∧ relationOf snapshot c.identity ∈ writes s.1 ∧
        Valid first.uplinkReads source c = true ∧ LinkStored source first c ∧
        WrittenRow snapshot c w ∧ w.key = e.key ∧ edgeUpserts.identity w = edgeUpserts.identity e ∧
        e.syncedAt = topologyTime snapshot := by
  have origin := ran.sound.history.edges.origin e.key e (Table.find?_of_mem stored)
  rcases origin.written with old | ⟨w, ⟨relation, member, prepared⟩, key, named, shape⟩
  · exact Or.inl old
  · obtain ⟨before, pages, pass, c, read, sofar, listed, valid, rfl⟩ := ran.link member
    refine Or.inr ⟨before, pages, pass, c, w, read, sofar, listed, member, valid,
      linkStored_of_valid valid, prepared, key, named, ?_⟩
    have time : w.syncedAt = topologyTime snapshot := WrittenRow.syncedAt prepared
    rcases shape with rfl | ⟨old, rfl⟩
    · exact time
    · exact time

end

/-- **What a run makes of the graph.**  In every execution, whatever the source answers and whatever
happens to the statements, wherever it stops: the vertices stay as they are, every edge stays with its
identity and birth and not older, and every other edge was written for a link of a whole first pass
whose server, interface and ToR are stored, the ToR being the only owner of the interface.  A write
that has returned nil is stored, and a run that has returned nil has written exactly these links. -/
theorem run_graph (worker : ServerUplinkWorker) (source : Source) (snapshot : Time) (n : Nat)
    (script : List UplinkTurn) (first : Graph) :
    ∃ log g, ((run worker source snapshot n).run uplinkHandler script ([], first)).2.1 = (log, g) ∧
      g.vertices = first.vertices ∧
      (∀ e ∈ first.edges.rows, edgeUpserts.Later e g.edges.find?) ∧
      (∀ e ∈ g.edges.rows, first.edges.find? e.key = some e ∨
        ∃ before pages pass c w, AllRead first.uplinkReads source before pages pass ∧ before ⊆ log ∧
          c ∈ distinctLinks pages ∧ relationOf snapshot c.identity ∈ writes log ∧
          Valid first.uplinkReads source c = true ∧ LinkStored source first c ∧
          WrittenRow snapshot c w ∧ w.key = e.key ∧
          edgeUpserts.identity w = edgeUpserts.identity e ∧ e.syncedAt = topologyTime snapshot) ∧
      (∀ relation, ⟨.upsertRelation relation, some (some ())⟩ ∈ log → EdgeLanded g relation) ∧
      ∀ result, ((run worker source snapshot n).run uplinkHandler script ([], first)).1 = .ok result →
        Finished first.uplinkReads source snapshot log result := by
  have ran := @uplinkRan (fun _ => True) worker source snapshot first script n
    fun _ _ _ _ => trivial
  refine ⟨_, _, rfl, ran.sound.history.vertices_eq, fun e member => ?_, fun e member => ran.edge member,
    ran.sound.landed, ran.finished⟩
  exact ran.sound.history.edge_later (Table.find?_of_mem member)

/-! ## A server that is connected -/

def cabledSource : Source := ⟨"s", "lab", "cmdb", "ref", true⟩

theorem columns_device : vertexColumns .device =
    ["all_ips", "device_type_id", "name", "parent_type_id", "role"] :=
  (List.mergeSort_eq_insertionSort (· ≤ ·) _).trans (by decide)

theorem columns_interface : vertexColumns .interface = ["group_name", "group_subtype", "group_type",
    "group_uuid", "port_group_type", "port_group_uuid", "port_name", "port_operation_status",
    "port_speed", "port_type"] :=
  (List.mergeSort_eq_insertionSort (· ≤ ·) _).trans (by decide)

/-- A device under its vertex ID. -/
def cabledDevice (vid sn : String) (category : Int64) : VertexRow where
  tag := .device
  vid := vid
  sourceId := "s"
  stableId := sn
  columns := [("all_ips", .null), ("device_type_id", .null), ("name", .null),
    ("parent_type_id", .integer category), ("role", .null)]
  createdAt := 1000
  syncedAt := 1000
  named := columns_device.symm

def cabledServer : VertexRow :=
  cabledDevice "5b8edb713ee42038ddff6efe6126692e24caaaf40049d64763176e761dfc6efa" "SN-1" 52

def cabledTor : VertexRow :=
  cabledDevice "c6d0e6e6b5cefa6a6ee8bd8470c3be3692d1d34e9a63b890691836d507d60afb" "SN-9" 54

def cabledPort : VertexRow where
  tag := .interface
  vid := "36b0969b8c8720d16df11d506167da66362c21cd8ab4b154902479f61ba97f0b"
  sourceId := "s"
  stableId := "P-1"
  columns := [("group_name", .null), ("group_subtype", .null), ("group_type", .null),
    ("group_uuid", .null), ("port_group_type", .null), ("port_group_uuid", .null),
    ("port_name", .null), ("port_operation_status", .null), ("port_speed", .null),
    ("port_type", .text "physics")]
  createdAt := 1000
  syncedAt := 1000
  named := columns_interface.symm

def cabledOwnership : EdgeRow where
  origin := cabledTor.vid
  edgeType := .composition
  target := cabledPort.vid
  rank := 6968308608403066520
  relationId := "60b467c279294e98c5adebb671e26d12bd5b4cb47f90b2fc86c8436377c7078d"
  relationKind := RelationKind.ownsInterface.text
  sourceId := "s"
  columns := []
  createdAt := 1000
  syncedAt := 1000
  named := List.mergeSort_nil.symm

/-- A server, and a ToR that owns an interface. -/
def cabled : Graph where
  vertices := ⟨[cabledServer, cabledTor, cabledPort], by decide⟩
  edges := ⟨[cabledOwnership], by decide⟩

/-- The page links two servers to the interface; the graph has only the first. -/
def cabledPage : UplinkPage where
  links := [Cmdb.uplinkIdentity cabledSource "SN-1" "P-1",
    Cmdb.uplinkIdentity cabledSource "SN-2" "P-1"]
  targets := Table.empty.put ("P-1", "SN-9")
  nextOffset := 2
  total := 2
  done := true
  skipped := 0
  firstInstanceId := 1
  lastInstanceId := 2
  sourceDigest := ""
  serverSNs := ["SN-1", "SN-2"]

/-- The run over this page; nothing fails. -/
def cabledRun : Outcome RunError ServerUplinkResult × (List UplinkEvent × Graph) × List UplinkTurn :=
  (run ⟨true, true⟩ cabledSource 2000 3).run uplinkHandler
    (List.replicate 15 ⟨⟨true, false, .ok cabledPage⟩, List.replicate 3 ⟨.none, []⟩, .none⟩) ([], cabled)

/-- The first link is written, and the second is counted as missing. -/
theorem run_graph_cabled : cabledRun.1 = .ok ⟨1, 2, 1, 1⟩ ∧
    Finished cabled.uplinkReads cabledSource 2000 cabledRun.2.1.1 ⟨1, 2, 1, 1⟩ ∧
    ∃ e ∈ cabledRun.2.1.2.edges.rows, cabled.edges.find? e.key = none ∧
      ∃ c w, LinkStored cabledSource cabled c ∧ WrittenRow 2000 c w ∧ w.key = e.key ∧
        e.syncedAt = topologyTime 2000 := by
  have ran : cabledRun.1 = .ok ⟨1, 2, 1, 1⟩ ∧
      cabledRun.2.1.2.edges.rows.any (fun e => cabled.edges.find? e.key = none) = true := by
    decide +kernel
  obtain ⟨returned, new⟩ := ran
  obtain ⟨e, stored, new⟩ := List.any_eq_true.mp new
  have new := of_decide_eq_true new
  unfold cabledRun at returned stored ⊢
  obtain ⟨log, g, reached, -, -, edges, -, finished⟩ := run_graph ⟨true, true⟩ cabledSource 2000 3
    (List.replicate 15 ⟨⟨true, false, .ok cabledPage⟩, List.replicate 3 ⟨.none, []⟩, .none⟩) cabled
  rw [reached] at stored ⊢
  refine ⟨returned, finished _ returned, e, stored, new, ?_⟩
  rcases edges e stored with old | ⟨-, -, -, c, w, -, -, -, -, -, linked, written, key, -, time⟩
  · rw [new] at old
    cases old
  · exact ⟨c, w, linked, written, key, time⟩

end ServerUplink

end UnifiedInfraTopology
