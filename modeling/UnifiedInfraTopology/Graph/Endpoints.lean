import UnifiedInfraTopology.Graph.History
import UnifiedInfraTopology.Lib.Fallible

/-!
# The owner of an interface

`ServerUplinkEndpointsValid` of `server_uplink_endpoints.go`: one query returns the server and, for
every path by which a device owns the interface, the path; the call accepts an answer of one row with
the names and classes that it expects.

* `serverUplinkEndpointsValid_true`: what is accepted.
-/

namespace UnifiedInfraTopology

open Lib

/-! ## The query -/

/-- A column of a vertex. -/
def VertexRow.cell (v : VertexRow) (name : String) : GraphValue := (v.columns.lookup name).getD .null

/-- The edge is an ownership of an interface. -/
def EdgeRow.owns (e : EdgeRow) (sourceId port : String) : Bool :=
  e.edgeType == .composition && e.sourceId == sourceId &&
    e.relationKind == RelationKind.ownsInterface.text && e.target == port

/-- The vertex of the source with the ID. -/
def Graph.scoped (g : Graph) (tag : EntityType) (sourceId vid : String) : Option VertexRow :=
  (g.vertices.find? (tag, vid)).filter fun v => v.sourceId = sourceId

/-- `(t:device)-[o:composition_relation]->(p:interface)`, at the interface; an edge whose device is
missing has no row. -/
def Graph.owners (g : Graph) (sourceId port : String) : List VertexRow :=
  (g.edges.rows.filter fun e => e.owns sourceId port).filterMap fun e =>
    g.vertices.find? (.device, e.origin)

/-- A row of the answer. -/
structure EndpointRow where
  server : VertexRow
  tor : VertexRow
  port : VertexRow

/-- The answer. -/
def Graph.endpointRows (g : Graph) (sourceId server port : String) : List EndpointRow :=
  match g.scoped .device sourceId server, g.scoped .interface sourceId port with
  | some s, some p => (g.owners sourceId port).map fun t => ⟨s, t, p⟩
  | _, _ => []

def EndpointRow.cells (row : EndpointRow) : List GraphValue :=
  [.text row.server.stableId, row.server.cell "parent_type_id", .text row.tor.sourceId,
    .text row.tor.stableId, row.tor.cell "parent_type_id", .text row.port.stableId,
    row.port.cell "port_type"]

/-! ## The call -/

inductive EndpointError where
  | conflict
  | identity (cause : ModelError)
  | notReady
deriving DecidableEq

/-- The cells of the only row that is accepted. -/
def expectedCells (server tor port : EntityIdentity) : List GraphValue :=
  [.text server.stableId, .integer 52, .text tor.sourceId, .text tor.stableId, .integer 54,
    .text port.stableId, .text "physics"]

/-- `serverUplinkEndpointQuery`: the vertex IDs of the server and the interface. -/
def serverUplinkEndpointQuery (server tor port : EntityIdentity) :
    Except EndpointError (String × String) :=
  if server.entityType ≠ .device ∨ tor.entityType ≠ .device ∨ port.entityType ≠ .interface ∨
      server.sourceId ≠ tor.sourceId ∨ server.sourceId ≠ port.sourceId then
    .error .conflict
  else
    match server.vid, tor.vid, port.vid with
    | .ok server, .ok _, .ok port => .ok (server, port)
    | .error e, _, _ | _, .error e, _ | _, _, .error e => .error (.identity e)

/-- `ServerUplinkEndpointsValid`, with what happens to its statement. -/
def serverUplinkEndpointsValid (g : Graph) (fault : GraphFault) (server tor port : EntityIdentity) :
    Except EndpointError Bool := do
  let vids ← serverUplinkEndpointQuery server tor port
  if fault ≠ .none then .error .notReady
  else
    match g.endpointRows server.sourceId vids.1 vids.2 with
    | [row] => .ok (row.cells = expectedCells server tor port)
    | _ => .ok false

section

variable {g : Graph} {fault : GraphFault} {server tor port : EntityIdentity}

/-- The identities belong together, and the interface has one owner, the expected one. -/
structure EndpointsOwned (g : Graph) (server tor port : EntityIdentity) (serverVid portVid : String)
    (row : EndpointRow) : Prop where
  hashed : server.vid = .ok serverVid
  portHashed : port.vid = .ok portVid
  types : server.entityType = .device ∧ tor.entityType = .device ∧ port.entityType = .interface
  sources : tor.sourceId = server.sourceId ∧ port.sourceId = server.sourceId
  only : g.endpointRows server.sourceId serverVid portVid = [row]
  cells : row.cells = expectedCells server tor port

theorem serverUplinkEndpointQuery_ok {vids : String × String}
    (ok : serverUplinkEndpointQuery server tor port = .ok vids) :
    server.vid = .ok vids.1 ∧ port.vid = .ok vids.2 ∧
      (server.entityType = .device ∧ tor.entityType = .device ∧ port.entityType = .interface) ∧
      tor.sourceId = server.sourceId ∧ port.sourceId = server.sourceId := by
  unfold serverUplinkEndpointQuery at ok
  obtain ⟨together, ok⟩ := check_ok ok
  simp only [ne_eq, not_or, not_not] at together
  obtain ⟨device, torDevice, interface, torSource, portSource⟩ := together
  refine ⟨?_, ?_, ⟨device, torDevice, interface⟩, torSource.symm, portSource.symm⟩
  all_goals
    split at ok
    · cases ok
      assumption
    all_goals cases ok

/-- What is accepted. -/
theorem serverUplinkEndpointsValid_true
    (valid : serverUplinkEndpointsValid g fault server tor port = .ok true) :
    ∃ serverVid portVid row, EndpointsOwned g server tor port serverVid portVid row := by
  obtain ⟨⟨serverVid, portVid⟩, query, valid⟩ := bind_ok valid
  obtain ⟨hashed, portHashed, types, sources⟩ := serverUplinkEndpointQuery_ok query
  obtain ⟨-, valid⟩ := check_ok valid
  cases rows : g.endpointRows server.sourceId serverVid portVid with
  | nil =>
      rw [rows] at valid
      cases valid
  | cons row more =>
      cases more with
      | nil =>
          rw [rows] at valid
          exact ⟨_, _, row, hashed, portHashed, types, sources, rows,
            of_decide_eq_true (Except.ok.inj valid)⟩
      | cons _ _ =>
          rw [rows] at valid
          cases valid

/-- An answered call does not depend on what happened on the way. -/
theorem serverUplinkEndpointsValid_ok {answer : Bool}
    (ok : serverUplinkEndpointsValid g fault server tor port = .ok answer) :
    serverUplinkEndpointsValid g .none server tor port = .ok answer := by
  obtain ⟨vids, query, ok⟩ := bind_ok ok
  obtain ⟨-, ok⟩ := check_ok ok
  rw [serverUplinkEndpointsValid, query]
  exact ok

end

/-! ## Other writes -/

section

variable {related : Relation → Prop} {first g : Graph}

/-- A history without vertices and cleanups leaves the vertices alone. -/
theorem History.vertices_eq (history : History (fun _ => False) related (fun _ => False) first g) :
    g.vertices = first.vertices := by
  induction history with
  | refl => rfl
  | tail _ changed same =>
      cases changed with
      | written here =>
          cases here with
          | vertex called _ _ =>
              obtain ⟨_, none_, -⟩ := called
              exact none_.elim
          | edge _ _ vertices => exact vertices.trans same
      | orphans none_ _ => exact none_.elim

end

end UnifiedInfraTopology
