import UnifiedInfraTopology.Graph.Rows

/-!
# Calls in flight

`GraphSide` is the graph with the calls of `UpsertVertex` and `UpsertRelation` that have not
returned.  A turn answers the next statement of one of them, so that the calls interleave in any
order.

* `History`: how the graph changes, one statement of a call or one cleanup after the other.
* `Sound`: the graph has a history, and every call is at a stage whose assertion holds.
* `VertexLanded`, `EdgeLanded`: what a call that returned nil has left behind.

Turns, new calls, returns and cleanups keep all of them.
-/

namespace UnifiedInfraTopology

open Lib

/-! ## Calls -/

/-- How a call has ended: whether it returned nil. -/
def outcome? : GraphProg Unit → Option Bool
  | .ret () => some true
  | .raise _ => some false
  | _ => none

/-- The first call on `a` that has ended returns; the others are left. -/
def joined {α : Type} [DecidableEq α] (a : α) :
    List (α × GraphProg Unit) → Option (Bool × List (α × GraphProg Unit))
  | [] => none
  | call :: calls =>
      match if call.1 = a then outcome? call.2 else none with
      | some ended => some (ended, calls)
      | none => (joined a calls).map fun rest => (rest.1, call :: rest.2)

theorem joined_some {α : Type} [DecidableEq α] {a : α} {calls rest : List (α × GraphProg Unit)}
    {ended : Bool} (here : joined a calls = some (ended, rest)) :
    ∃ p, outcome? p = some ended ∧ calls.Perm ((a, p) :: rest) := by
  induction calls generalizing rest with
  | nil => cases here
  | cons call calls ih =>
      rw [joined] at here
      split at here
      · rename_i own
        cases here
        split_ifs at own with same
        exact ⟨call.2, own, by rw [← same]⟩
      · obtain ⟨⟨ended', rest'⟩, later, same⟩ := Option.map_eq_some_iff.mp here
        cases same
        obtain ⟨p, own, perm⟩ := ih later
        exact ⟨p, own, (perm.cons call).trans (.swap _ _ _)⟩

theorem ret_of_outcome? {p : GraphProg Unit} (ended : outcome? p = some true) : p = .ret () := by
  unfold outcome? at ended
  split at ended
  · rfl
  · cases ended
  · cases ended

/-! ## The graph and its calls -/

structure GraphSide where
  graph : Graph
  vertices : List (TopologyVertex × GraphProg Unit)
  relations : List (Relation × GraphProg Unit)

/-- The next statement of a call is answered. -/
inductive GraphTurn where
  | vertex (index : Nat) (m : GraphMove)
  | relation (index : Nat) (m : GraphMove)

namespace GraphSide

def turn (side : GraphSide) : GraphTurn → GraphSide
  | .vertex index m =>
      match side.vertices[index]? with
      | none => side
      | some (v, p) =>
          let next := Prog.stepOnce graphHandler p m side.graph
          { side with graph := next.2, vertices := side.vertices.set index (v, next.1) }
  | .relation index m =>
      match side.relations[index]? with
      | none => side
      | some (r, p) =>
          let next := Prog.stepOnce graphHandler p m side.graph
          { side with graph := next.2, relations := side.relations.set index (r, next.1) }

def turned (side : GraphSide) (turns : List GraphTurn) : GraphSide := turns.foldl turn side

end GraphSide

/-! ## Vertices -/

/-- Where a call of `UpsertVertex` is: it was refused, or is at a stage. -/
def VertexInFlight (g : Graph) (v : TopologyVertex) (p : GraphProg Unit) : Prop :=
  (∃ row stage, prepareVertex v = .ok row ∧ VertexAt row stage p ∧
    vertexUpserts.Reached row (g.vertices.find? row.key) stage) ∨ ∃ e, p = .raise e

/-- The vertex is stored, with its identity and not older. -/
def VertexLanded (g : Graph) (v : TopologyVertex) : Prop :=
  ∃ row, prepareVertex v = .ok row ∧
    vertexUpserts.Reached row (g.vertices.find? row.key) .returned

/-- The row that one of the calls writes. -/
def CalledVertex (called : TopologyVertex → Prop) (row : VertexRow) : Prop :=
  ∃ v, called v ∧ prepareVertex v = .ok row

section

variable {g g' : Graph} {v : TopologyVertex} {p : GraphProg Unit} {other : VertexRow}

theorem vertexInFlight_start (g : Graph) (v : TopologyVertex) :
    VertexInFlight g v (upsertVertex v) := by
  unfold upsertVertex
  cases prepared : prepareVertex v with
  | error e => exact Or.inr ⟨e, rfl⟩
  | ok row => exact Or.inl ⟨row, .start, prepared, .start, trivial⟩

theorem VertexInFlight.step (call : VertexInFlight g v p)
    (step : vertexUpserts.Step other g.vertices.find? g'.vertices.find?) :
    VertexInFlight g' v p := by
  rcases call with ⟨row, stage, prepared, at_, reached⟩ | refused
  · exact Or.inl ⟨row, stage, prepared, at_, reached.step step⟩
  · exact Or.inr refused

theorem VertexLanded.step (landed : VertexLanded g v)
    (step : vertexUpserts.Step other g.vertices.find? g'.vertices.find?) : VertexLanded g' v := by
  obtain ⟨row, prepared, reached⟩ := landed
  exact ⟨row, prepared, reached.step step⟩

theorem VertexInFlight.congr (call : VertexInFlight g v p) (same : g'.vertices = g.vertices) :
    VertexInFlight g' v p := by
  rwa [VertexInFlight, same]

theorem VertexLanded.congr (landed : VertexLanded g v) (same : g'.vertices = g.vertices) :
    VertexLanded g' v := by
  rwa [VertexLanded, same]

/-- A call that has returned nil has landed. -/
theorem VertexInFlight.landed (call : VertexInFlight g v (.ret ())) : VertexLanded g v := by
  rcases call with ⟨row, stage, prepared, at_, reached⟩ | ⟨e, refused⟩
  · cases stage with
    | returned => exact ⟨row, prepared, reached⟩
    | start => cases at_
    | check => cases at_
    | merge => cases at_
    | failed => cases at_
  · cases refused

end

/-! ## Relations -/

/-- Where a call of `UpsertRelation` is. -/
def EdgeInFlight (g : Graph) (r : Relation) (p : GraphProg Unit) : Prop :=
  (∃ row stage, prepareRelation r = .ok row ∧ EdgeAt row stage p ∧
    edgeUpserts.Reached row (g.edges.find? row.key) stage) ∨ ∃ e, p = .raise e

/-- The edge is stored, with its identity and not older. -/
def EdgeLanded (g : Graph) (r : Relation) : Prop :=
  ∃ row, prepareRelation r = .ok row ∧ edgeUpserts.Reached row (g.edges.find? row.key) .returned

/-- The row that one of the calls writes. -/
def CalledEdge (called : Relation → Prop) (row : EdgeRow) : Prop :=
  ∃ r, called r ∧ prepareRelation r = .ok row

section

variable {g g' : Graph} {r : Relation} {p : GraphProg Unit} {other : EdgeRow}

theorem edgeInFlight_start (g : Graph) (r : Relation) : EdgeInFlight g r (upsertRelation r) := by
  unfold upsertRelation
  cases prepared : prepareRelation r with
  | error e => exact Or.inr ⟨e, rfl⟩
  | ok row => exact Or.inl ⟨row, .start, prepared, .start, trivial⟩

theorem EdgeInFlight.step (call : EdgeInFlight g r p)
    (step : edgeUpserts.Step other g.edges.find? g'.edges.find?) : EdgeInFlight g' r p := by
  rcases call with ⟨row, stage, prepared, at_, reached⟩ | refused
  · exact Or.inl ⟨row, stage, prepared, at_, reached.step step⟩
  · exact Or.inr refused

theorem EdgeLanded.step (landed : EdgeLanded g r)
    (step : edgeUpserts.Step other g.edges.find? g'.edges.find?) : EdgeLanded g' r := by
  obtain ⟨row, prepared, reached⟩ := landed
  exact ⟨row, prepared, reached.step step⟩

theorem EdgeInFlight.congr (call : EdgeInFlight g r p) (same : g'.edges = g.edges) :
    EdgeInFlight g' r p := by
  rwa [EdgeInFlight, same]

theorem EdgeLanded.congr (landed : EdgeLanded g r) (same : g'.edges = g.edges) :
    EdgeLanded g' r := by
  rwa [EdgeLanded, same]

theorem EdgeInFlight.landed (call : EdgeInFlight g r (.ret ())) : EdgeLanded g r := by
  rcases call with ⟨row, stage, prepared, at_, reached⟩ | ⟨e, refused⟩
  · cases stage with
    | returned => exact ⟨row, prepared, reached⟩
    | start => cases at_
    | check => cases at_
    | merge => cases at_
    | failed => cases at_
  · cases refused

end

/-! ## Histories -/

/-- A statement of one of the calls. -/
inductive GraphWritten (upserted : TopologyVertex → Prop) (related : Relation → Prop) (g g' : Graph) :
    Prop where
  | vertex {row : VertexRow} (here : CalledVertex upserted row)
      (step : vertexUpserts.Step row g.vertices.find? g'.vertices.find?) (edges : g'.edges = g.edges)
  | edge {row : EdgeRow} (here : CalledEdge related row)
      (step : edgeUpserts.Step row g.edges.find? g'.edges.find?) (vertices : g'.vertices = g.vertices)

/-- The scope of a cleanup, and its cutoff. -/
structure CleanupScope where
  tag : EntityType
  sourceId : String
  before : Time

/-- What happens to the graph: a statement of a call, or a cleanup. -/
inductive GraphChanged (upserted : TopologyVertex → Prop) (related : Relation → Prop)
    (cleaned : CleanupScope → Prop) (g g' : Graph) : Prop where
  | written (here : GraphWritten upserted related g g')
  | orphans {scope : CleanupScope} (here : cleaned scope)
      (left : OrphansLeft g scope.tag scope.sourceId scope.before g')

/-- The graph has come from the other one by the calls and the cleanups. -/
abbrev History (upserted : TopologyVertex → Prop) (related : Relation → Prop)
    (cleaned : CleanupScope → Prop) : Graph → Graph → Prop :=
  Relation.ReflTransGen (GraphChanged upserted related cleaned)

/-- Nothing that has landed is lost. -/
structure Retains (g g' : Graph) : Prop where
  vertices : ∀ v, VertexLanded g v → VertexLanded g' v
  edges : ∀ r, EdgeLanded g r → EdgeLanded g' r

theorem Retains.refl (g : Graph) : Retains g g := ⟨fun _ landed => landed, fun _ landed => landed⟩

theorem Retains.trans {g g' g'' : Graph} (first : Retains g g') (second : Retains g' g'') :
    Retains g g'' :=
  ⟨fun v landed => second.vertices v (first.vertices v landed),
    fun r landed => second.edges r (first.edges r landed)⟩

section

variable {upserted upserted' : TopologyVertex → Prop} {related related' : Relation → Prop}
  {cleaned cleaned' : CleanupScope → Prop} {g g' : Graph} {v : TopologyVertex} {r : Relation}
  {p : GraphProg Unit}

theorem GraphWritten.retains (written : GraphWritten upserted related g g') : Retains g g' := by
  cases written with
  | vertex _ step edges => exact ⟨fun _ landed => landed.step step, fun _ landed => landed.congr edges⟩
  | edge _ step vertices =>
      exact ⟨fun _ landed => landed.congr vertices, fun _ landed => landed.step step⟩

theorem GraphWritten.vertexInFlight (written : GraphWritten upserted related g g')
    (call : VertexInFlight g v p) : VertexInFlight g' v p := by
  cases written with
  | vertex _ step _ => exact call.step step
  | edge _ _ vertices => exact call.congr vertices

theorem GraphWritten.edgeInFlight (written : GraphWritten upserted related g g') (call : EdgeInFlight g r p) :
    EdgeInFlight g' r p := by
  cases written with
  | vertex _ _ edges => exact call.congr edges
  | edge _ step _ => exact call.step step

theorem History.mono (history : History upserted related cleaned g g')
    (moreVertices : ∀ v, upserted v → upserted' v) (moreRelations : ∀ r, related r → related' r)
    (moreCleanups : ∀ scope, cleaned scope → cleaned' scope) :
    History upserted' related' cleaned' g g' := by
  refine Relation.ReflTransGen.mono (fun g g' changed => ?_) _ _ history
  cases changed with
  | written here =>
      refine .written ?_
      cases here with
      | vertex called step edges =>
          obtain ⟨v, called, prepared⟩ := called
          exact .vertex ⟨v, moreVertices v called, prepared⟩ step edges
      | edge called step vertices =>
          obtain ⟨r, called, prepared⟩ := called
          exact .edge ⟨r, moreRelations r called, prepared⟩ step vertices
  | orphans here left => exact .orphans (moreCleanups _ here) left

end

/-! ## The invariant -/

/-- The graph has come from the first one, and every call in flight is one of these and at a stage. -/
structure Sound (first : Graph) (upserted : TopologyVertex → Prop) (related : Relation → Prop)
    (cleaned : CleanupScope → Prop) (side : GraphSide) : Prop where
  history : History upserted related cleaned first side.graph
  vertexCalls : ∀ call ∈ side.vertices, upserted call.1 ∧ VertexInFlight side.graph call.1 call.2
  edgeCalls : ∀ call ∈ side.relations, related call.1 ∧ EdgeInFlight side.graph call.1 call.2

namespace Sound

variable {first : Graph} {upserted : TopologyVertex → Prop} {related : Relation → Prop}
  {cleaned : CleanupScope → Prop} {side : GraphSide}

theorem start (g : Graph) (upserted : TopologyVertex → Prop) (related : Relation → Prop)
    (cleaned : CleanupScope → Prop) : Sound g upserted related cleaned ⟨g, [], []⟩ where
  history := .refl
  vertexCalls _ member := (List.not_mem_nil member).elim
  edgeCalls _ member := (List.not_mem_nil member).elim

theorem mono {upserted' : TopologyVertex → Prop} {related' : Relation → Prop}
    {cleaned' : CleanupScope → Prop} (sound : Sound first upserted related cleaned side)
    (moreVertices : ∀ v, upserted v → upserted' v) (moreRelations : ∀ r, related r → related' r)
    (moreCleanups : ∀ scope, cleaned scope → cleaned' scope) :
    Sound first upserted' related' cleaned' side where
  history := sound.history.mono moreVertices moreRelations moreCleanups
  vertexCalls call member := (sound.vertexCalls call member).imp_left (moreVertices call.1)
  edgeCalls call member := (sound.edgeCalls call member).imp_left (moreRelations call.1)

theorem written (sound : Sound first upserted related cleaned side) {g : Graph}
    (written : GraphWritten upserted related side.graph g) :
    Sound first upserted related cleaned { side with graph := g } where
  history := sound.history.tail (.written written)
  vertexCalls call member := (sound.vertexCalls call member).imp_right written.vertexInFlight
  edgeCalls call member := (sound.edgeCalls call member).imp_right written.edgeInFlight

/-- The next statement of a vertex call. -/
theorem vertexTurn (sound : Sound first upserted related cleaned side) {v : TopologyVertex}
    {p : GraphProg Unit} (here : (v, p) ∈ side.vertices) (m : GraphMove) :
    VertexInFlight (Prog.stepOnce graphHandler p m side.graph).2 v
        (Prog.stepOnce graphHandler p m side.graph).1 ∧
      Retains side.graph (Prog.stepOnce graphHandler p m side.graph).2 ∧
      Sound first upserted related cleaned
        { side with graph := (Prog.stepOnce graphHandler p m side.graph).2 } := by
  obtain ⟨called, call⟩ := sound.vertexCalls (v, p) here
  rcases call with ⟨row, stage, prepared, at_, reached⟩ | ⟨e, rfl⟩
  · obtain ⟨⟨stage', at', reached'⟩, step, edges⟩ := vertexStepped at_ reached m
    have written : GraphWritten upserted related side.graph _ := .vertex ⟨v, called, prepared⟩ step edges
    exact ⟨Or.inl ⟨row, stage', prepared, at', reached'⟩, written.retains, sound.written written⟩
  · exact ⟨Or.inr ⟨e, rfl⟩, .refl _, sound⟩

/-- The next statement of a relation call. -/
theorem edgeTurn (sound : Sound first upserted related cleaned side) {r : Relation}
    {p : GraphProg Unit} (here : (r, p) ∈ side.relations) (m : GraphMove) :
    EdgeInFlight (Prog.stepOnce graphHandler p m side.graph).2 r
        (Prog.stepOnce graphHandler p m side.graph).1 ∧
      Retains side.graph (Prog.stepOnce graphHandler p m side.graph).2 ∧
      Sound first upserted related cleaned
        { side with graph := (Prog.stepOnce graphHandler p m side.graph).2 } := by
  obtain ⟨called, call⟩ := sound.edgeCalls (r, p) here
  rcases call with ⟨row, stage, prepared, at_, reached⟩ | ⟨e, rfl⟩
  · obtain ⟨⟨stage', at', reached'⟩, step, vertices⟩ := edgeStepped at_ reached m
    have written : GraphWritten upserted related side.graph _ := .edge ⟨r, called, prepared⟩ step vertices
    exact ⟨Or.inl ⟨row, stage', prepared, at', reached'⟩, written.retains, sound.written written⟩
  · exact ⟨Or.inr ⟨e, rfl⟩, .refl _, sound⟩

theorem turn (sound : Sound first upserted related cleaned side) (t : GraphTurn) :
    Sound first upserted related cleaned (side.turn t) ∧ Retains side.graph (side.turn t).graph := by
  cases t with
  | vertex index m =>
      simp only [GraphSide.turn]
      split
      · exact ⟨sound, .refl _⟩
      · rename_i v p here
        have member := List.mem_of_getElem? here
        obtain ⟨call, retains, next⟩ := sound.vertexTurn member m
        refine ⟨⟨next.history, fun other inside => ?_, next.edgeCalls⟩, retains⟩
        rcases List.mem_or_eq_of_mem_set inside with old | rfl
        · exact next.vertexCalls other old
        · exact ⟨(sound.vertexCalls _ member).1, call⟩
  | relation index m =>
      simp only [GraphSide.turn]
      split
      · exact ⟨sound, .refl _⟩
      · rename_i r p here
        have member := List.mem_of_getElem? here
        obtain ⟨call, retains, next⟩ := sound.edgeTurn member m
        refine ⟨⟨next.history, next.vertexCalls, fun other inside => ?_⟩, retains⟩
        rcases List.mem_or_eq_of_mem_set inside with old | rfl
        · exact next.edgeCalls other old
        · exact ⟨(sound.edgeCalls _ member).1, call⟩

theorem turned (sound : Sound first upserted related cleaned side) (turns : List GraphTurn) :
    Sound first upserted related cleaned (side.turned turns) ∧
      Retains side.graph (side.turned turns).graph := by
  induction turns generalizing side with
  | nil => exact ⟨sound, .refl _⟩
  | cons t turns ih =>
      obtain ⟨next, retains⟩ := sound.turn t
      obtain ⟨last, retains'⟩ := ih next
      exact ⟨last, retains.trans retains'⟩

/-- A new call. -/
theorem vertexCalled (sound : Sound first upserted related cleaned side) {v : TopologyVertex}
    (called : upserted v) : Sound first upserted related cleaned
      { side with vertices := side.vertices ++ [(v, upsertVertex v)] } := by
  refine ⟨sound.history, fun call member => ?_, sound.edgeCalls⟩
  rcases List.mem_append.mp member with old | new
  · exact sound.vertexCalls call old
  · cases List.mem_singleton.mp new
    exact ⟨called, vertexInFlight_start _ _⟩

theorem edgeCalled (sound : Sound first upserted related cleaned side) {r : Relation}
    (called : related r) : Sound first upserted related cleaned
      { side with relations := side.relations ++ [(r, upsertRelation r)] } := by
  refine ⟨sound.history, sound.vertexCalls, fun call member => ?_⟩
  rcases List.mem_append.mp member with old | new
  · exact sound.edgeCalls call old
  · cases List.mem_singleton.mp new
    exact ⟨called, edgeInFlight_start _ _⟩

/-- A call returns. -/
theorem vertexJoined (sound : Sound first upserted related cleaned side) {v : TopologyVertex} {ended : Bool}
    {rest : List (TopologyVertex × GraphProg Unit)}
    (here : joined v side.vertices = some (ended, rest)) :
    Sound first upserted related cleaned { side with vertices := rest } ∧
      (ended = true → VertexLanded side.graph v) := by
  obtain ⟨p, outcome, perm⟩ := joined_some here
  refine ⟨⟨sound.history, fun call member => ?_, sound.edgeCalls⟩, ?_⟩
  · exact sound.vertexCalls call (perm.mem_iff.mpr (List.mem_cons_of_mem _ member))
  · rintro rfl
    have call := (sound.vertexCalls (v, p) (perm.mem_iff.mpr List.mem_cons_self)).2
    rw [ret_of_outcome? outcome] at call
    exact call.landed

theorem edgeJoined (sound : Sound first upserted related cleaned side) {r : Relation} {ended : Bool}
    {rest : List (Relation × GraphProg Unit)}
    (here : joined r side.relations = some (ended, rest)) :
    Sound first upserted related cleaned { side with relations := rest } ∧
      (ended = true → EdgeLanded side.graph r) := by
  obtain ⟨p, outcome, perm⟩ := joined_some here
  refine ⟨⟨sound.history, sound.vertexCalls, fun call member => ?_⟩, ?_⟩
  · exact sound.edgeCalls call (perm.mem_iff.mpr (List.mem_cons_of_mem _ member))
  · rintro rfl
    have call := (sound.edgeCalls (r, p) (perm.mem_iff.mpr List.mem_cons_self)).2
    rw [ret_of_outcome? outcome] at call
    exact call.landed

/-- A cleanup while no vertex is being written. -/
theorem cleanedUp (sound : Sound first upserted related cleaned side) (idle : side.vertices = [])
    {g : Graph} {scope : CleanupScope} (here : cleaned scope)
    (left : OrphansLeft side.graph scope.tag scope.sourceId scope.before g) :
    Sound first upserted related cleaned { side with graph := g } where
  history := sound.history.tail (.orphans here left)
  vertexCalls _ member := (List.not_mem_nil (idle ▸ member)).elim
  edgeCalls call member :=
    (sound.edgeCalls call member).imp_right fun call => call.congr left.edges

end Sound

/-- A cleanup spares what has landed of its tag, if that is not older than the cutoff. -/
theorem VertexLanded.cleanedUp {g g' : Graph} {v : TopologyVertex} {sourceId : String}
    {before : Time} (landed : VertexLanded g v) (left : OrphansLeft g v.identity.entityType sourceId before g')
    (newer : before ≤ topologyTime v.syncedAt) : VertexLanded g' v := by
  obtain ⟨row, prepared, stored, found, named, fresh⟩ := landed
  obtain ⟨-, tag, -, -, -, synced⟩ := prepareVertex_ok prepared
  have key : stored.key = row.key := Table.key_of_find? found
  refine ⟨row, prepared, stored, ?_, named, fresh⟩
  rw [← key] at found ⊢
  refine left.kept_of_newer found ((congrArg Prod.fst key).trans tag) (newer.trans ?_)
  rw [← synced]
  exact fresh

end UnifiedInfraTopology
