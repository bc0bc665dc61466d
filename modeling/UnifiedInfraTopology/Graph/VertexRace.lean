import UnifiedInfraTopology.Graph.Upsert
import Mathlib.Order.Bounds.Basic

/-!
# Racing vertex writes

Any number of `UpsertVertex` calls on one identity, their statements interleaved in any order, each
call possibly stopping after any statement.

A statement of such a call moves the row stored under the common key by a `VertexMove`: it creates
the call's own row, it refreshes every column of the stored row, or it does nothing.  The refresh
rewrites the whole property list because the list names every column of the tag.  `VertexThread` is
the assertion of one call at each of its stages.

`upsertVertex_race` collects the results: the stored row always carries the properties and the
synchronisation time of one call, its creation time never changes, its synchronisation time never
decreases, and when every call has returned it is the latest of all.
-/

namespace UnifiedInfraTopology

open Lib

theorem vertexColumns_nodup (tag : EntityType) : (vertexColumns tag).Nodup := by
  cases tag with
  | other text => exact List.nodup_nil
  | _ => exact (List.mergeSort_perm _ _).nodup_iff.mpr (by decide)

/-- A refresh with the columns of another row of the tag takes over its whole property list. -/
theorem columns_refreshed {row written : VertexRow} (tag : row.tag = written.tag) (t : Time) :
    (row.refreshed written.columns t).columns = written.columns := by
  have names : row.columns.map (·.1) = written.columns.map (·.1) := by
    rw [row.named, written.named, tag]
  exact assign_of_names names (written.named ▸ vertexColumns_nodup written.tag)

/-! ## One statement -/

/-- The statements of one call. -/
inductive VertexCall (written : VertexRow) : Statement → Prop where
  | insert : VertexCall written (.insertVertex written)
  | fetch : VertexCall written (.fetchVertex written.tag written.vid)
  | update : VertexCall written
      (.updateVertex written.tag written.vid written.columns written.syncedAt)

/-- What a statement of a call does to the row stored under its key. -/
inductive VertexMove (written : VertexRow) : Option VertexRow → Option VertexRow → Prop where
  | same (stored : Option VertexRow) : VertexMove written stored stored
  | created : VertexMove written none (some written)
  | refreshed (row : VertexRow) (older : row.syncedAt ≤ written.syncedAt) :
      VertexMove written (some row) (some (row.refreshed written.columns written.syncedAt))

theorem find?_insertVertex (row : VertexRow) (g : Graph) :
    ((g.vertices.insert row).getD g.vertices).find? row.key =
      some ((g.vertices.find? row.key).getD row) := by
  cases inserted : g.vertices.insert row with
  | none =>
      cases found : g.vertices.find? row.key with
      | none =>
          have fresh := Table.insert_isSome.mpr found
          rw [inserted] at fresh
          cases fresh
      | some stored => simp [found]
  | some vertices =>
      have fresh := Table.insert_isSome.mp (by rw [inserted]; rfl)
      simp [Table.find?_of_insert inserted, fresh]

theorem vertexMove_execute {written : VertexRow} {c : Statement} (call : VertexCall written c)
    (order : List String) (g : Graph) :
    VertexMove written (g.vertices.find? written.key)
      ((c.execute order g).2.vertices.find? written.key) := by
  cases call with
  | insert =>
      simp only [Statement.execute, find?_insertVertex]
      cases g.vertices.find? written.key with
      | none => exact .created
      | some stored => exact .same _
  | fetch => exact .same _
  | update =>
      simp only [Statement.execute]
      cases found : g.vertices.find? (written.tag, written.vid) with
      | none => exact .same _
      | some row =>
          have here : g.vertices.find? written.key = some row := found
          simp only [Table.find?_update, here, Option.map_some]
          split
          · rename_i chosen
            simp only [Bool.and_eq_true, decide_eq_true_eq] at chosen
            exact .refreshed row chosen.2
          · exact .same _

theorem vertexMove_of_call {written : VertexRow} {c : Statement} (call : VertexCall written c)
    (m : GraphMove) (g : Graph) :
    VertexMove written (g.vertices.find? written.key)
      ((graphHandler c m g).2.vertices.find? written.key) := by
  rcases graphHandler_state c m g with same | ran
  · rw [same]
    exact .same _
  · rw [ran]
    exact vertexMove_execute call m.order g

/-! ## One call -/

section Race

variable {ι : Type} (v : ι → TopologyVertex) (key : VertexKey)

/-- The row carries the properties and the time of one of the calls. -/
def FromCall (row : VertexRow) : Prop :=
  ∃ i written, prepareVertex (v i) = .ok written ∧ row.columns = written.columns ∧
    row.syncedAt = written.syncedAt

/-- The row after a call has returned: not older than the call, and not what was stored before all
calls unless that is newer than the call. -/
def Settled (written : VertexRow) (stored : Option VertexRow) : Prop :=
  ∃ row, stored = some row ∧ written.syncedAt ≤ row.syncedAt ∧
    (FromCall v row ∨ written.syncedAt < row.syncedAt)

/-- Where a call can be. -/
inductive VertexThread (written : VertexRow) (stored : Option VertexRow) :
    GraphProg Unit → Prop where
  | start {p : GraphProg Unit} (here : p = writeVertex written) : VertexThread written stored p
  | check {p : GraphProg Unit} (here : p = checkVertex written) (present : stored.isSome) :
      VertexThread written stored p
  | refresh {p : GraphProg Unit} (here : p = refreshVertex written) (present : stored.isSome) :
      VertexThread written stored p
  | returned (settled : Settled v written stored) : VertexThread written stored (.ret ())
  | failed (e : GraphError) : VertexThread written stored (.raise e)

variable {v key}

theorem FromCall.of_written {i : ι} {written : VertexRow} (ok : prepareVertex (v i) = .ok written) :
    FromCall v written := ⟨i, written, ok, rfl, rfl⟩

/-- A refreshed row carries what the call wrote. -/
theorem FromCall.refreshed {i : ι} {written row : VertexRow}
    (ok : prepareVertex (v i) = .ok written) (tag : row.tag = written.tag) :
    FromCall v (row.refreshed written.columns written.syncedAt) :=
  ⟨i, written, ok, columns_refreshed tag written.syncedAt, rfl⟩

/-- The statements of other calls leave a settled row settled. -/
theorem Settled.move {i : ι} {written other : VertexRow} {stored stored' : Option VertexRow}
    (ok : prepareVertex (v i) = .ok other) (tags : ∀ row, stored = some row → row.tag = other.tag)
    (settled : Settled v written stored) (move : VertexMove other stored stored') :
    Settled v written stored' := by
  obtain ⟨row, found, fresh, writer⟩ := settled
  cases move with
  | same => exact ⟨row, found, fresh, writer⟩
  | created => cases found
  | refreshed row' older =>
      cases found
      exact ⟨_, rfl, fresh.trans older, Or.inl (.refreshed ok (tags row rfl))⟩

theorem VertexThread.move {i : ι} {written other : VertexRow} {stored stored' : Option VertexRow}
    {p : GraphProg Unit} (ok : prepareVertex (v i) = .ok other)
    (tags : ∀ row, stored = some row → row.tag = other.tag)
    (thread : VertexThread v written stored p) (move : VertexMove other stored stored') :
    VertexThread v written stored' p := by
  have stays : stored.isSome → stored'.isSome := by
    cases move with
    | same => exact id
    | created => exact fun _ => rfl
    | refreshed row older => exact fun _ => rfl
  cases thread with
  | start here => exact .start here
  | check here present => exact .check here (stays present)
  | refresh here present => exact .refresh here (stays present)
  | returned settled => exact .returned (settled.move ok tags move)
  | failed e => exact .failed e

/-- A call issues its own statements only. -/
theorem VertexThread.call {written : VertexRow} {stored : Option VertexRow} {c : Statement}
    {k : GraphAnswer → GraphProg Unit} (thread : VertexThread v written stored (.call c k)) :
    VertexCall written c := by
  cases thread with
  | start here => cases here; exact .insert
  | check here present => cases here; exact .fetch
  | refresh here present => cases here; exact .update

/-- The update of a call settles the stored row. -/
theorem settled_of_update {i : ι} {written : VertexRow} (ok : prepareVertex (v i) = .ok written)
    {order : List String} {g : Graph} (present : (g.vertices.find? written.key).isSome) :
    Settled v written (((Statement.updateVertex written.tag written.vid written.columns
      written.syncedAt).execute order g).2.vertices.find? written.key) := by
  obtain ⟨row, found⟩ := Option.isSome_iff_exists.mp present
  have key := Table.key_of_find? found
  have tag : row.tag = written.tag := congrArg Prod.fst key
  have here : g.vertices.find? (written.tag, written.vid) = some row := found
  simp only [Statement.execute, here, Table.find?_update, found, Option.map_some]
  by_cases older : row.syncedAt ≤ written.syncedAt
  · refine ⟨row.refreshed written.columns written.syncedAt, ?_, le_rfl, Or.inl (.refreshed ok tag)⟩
    have chosen : row.key = (written.tag, written.vid) := key
    simp [chosen, older]
  · refine ⟨row, by simp [older], ?_, Or.inr ?_⟩
    · exact le_of_lt (lt_of_not_ge older)
    · exact lt_of_not_ge older

/-- One statement of a call leads to its next stage. -/
theorem VertexThread.next {i : ι} {written : VertexRow} {g : Graph} {c : Statement}
    {k : GraphAnswer → GraphProg Unit} (ok : prepareVertex (v i) = .ok written)
    (thread : VertexThread v written (g.vertices.find? written.key) (.call c k)) {m : GraphMove}
    {answer : GraphAnswer} (answered : (graphHandler c m g).1 = some answer) :
    VertexThread v written ((graphHandler c m g).2.vertices.find? written.key) (k answer) := by
  have move := vertexMove_of_call thread.call m g
  cases thread with
  | start here =>
      cases here
      rcases answer with e | rows
      · exact .failed e
      · refine .check rfl ?_
        rw [(graphHandler_ok answered).2]
        simp [Statement.execute, find?_insertVertex]
  | check here present =>
      cases here
      rcases answer with e | rows
      · exact .failed e
      · have present' : ((graphHandler (.fetchVertex written.tag written.vid) m g).2.vertices.find?
            written.key).isSome := by
          rw [(graphHandler_ok answered).2]
          exact present
        dsimp only [Prog.bind]
        split
        · exact .failed _
        · split
          · exact .failed _
          · exact .refresh rfl present'
  | refresh here present =>
      cases here
      rcases answer with e | rows
      · exact .failed e
      · refine .returned ?_
        rw [(graphHandler_ok answered).2]
        exact settled_of_update ok present

/-! ## All calls -/

/-- The key under which an identity is stored. -/
def vertexKey (identity : EntityIdentity) : VertexKey :=
  (identity.entityType, identity.vid.toOption.getD "")

theorem key_prepareVertex {vertex : TopologyVertex} {row : VertexRow}
    (ok : prepareVertex vertex = .ok row) : row.key = vertexKey vertex.identity := by
  obtain ⟨hashed, tag, -⟩ := prepareVertex_ok ok
  rw [vertexKey, hashed, ← tag]
  rfl

variable (v) in
/-- The assertion of one call: it was refused before its first statement, or is at a stage. -/
def VertexAssertion (key : VertexKey) (i : ι) (p : GraphProg Unit) (g : Graph) : Prop :=
  (∃ written, prepareVertex (v i) = .ok written ∧
    VertexThread v written (g.vertices.find? key) p) ∨ ∃ e, p = .raise e

theorem vertexAssertion_start (key : VertexKey) (i : ι) (g : Graph) :
    VertexAssertion v key i (upsertVertex (v i)) g := by
  unfold upsertVertex
  cases prepared : prepareVertex (v i) with
  | error e => exact Or.inr ⟨e, rfl⟩
  | ok written => exact Or.inl ⟨written, prepared, .start rfl⟩

variable {identity : EntityIdentity} (same : ∀ i, (v i).identity = identity)

include same

theorem key_prepared {i : ι} {written : VertexRow} (ok : prepareVertex (v i) = .ok written) :
    written.key = vertexKey identity := by
  rw [key_prepareVertex ok, same i]

/-- The rows stored under the common key have the tag of every call. -/
theorem tag_stored {i : ι} {written : VertexRow} (ok : prepareVertex (v i) = .ok written)
    (g : Graph) (row : VertexRow) (found : g.vertices.find? (vertexKey identity) = some row) :
    row.tag = written.tag :=
  congrArg Prod.fst ((Table.key_of_find? found).trans (key_prepared same ok).symm)

theorem vertexAssertion_call {i : ι} {c : Statement} {k : GraphAnswer → GraphProg Unit} {g : Graph}
    (thread : VertexAssertion v (vertexKey identity) i (.call c k) g) (m : GraphMove) :
    ∃ written, prepareVertex (v i) = .ok written ∧
      VertexMove written (g.vertices.find? (vertexKey identity))
        ((graphHandler c m g).2.vertices.find? (vertexKey identity)) := by
  rcases thread with ⟨written, ok, thread⟩ | ⟨e, refused⟩
  · refine ⟨written, ok, ?_⟩
    rw [← key_prepared same ok]
    exact vertexMove_of_call thread.call m g
  · cases refused

variable [DecidableEq ι]

/-- A property of the stored row that every `VertexMove` of a call keeps holds throughout, and every
call stays at one of its stages. -/
theorem vertex_interleave {Q : Option VertexRow → Prop}
    (keeps : ∀ i written stored stored', prepareVertex (v i) = .ok written →
      (∀ row, stored = some row → row.tag = written.tag) → VertexMove written stored stored' →
      Q stored → Q stored')
    (schedule : List (ι × GraphMove)) {ps : ι → GraphProg Unit} {g : Graph}
    (start : Q (g.vertices.find? (vertexKey identity)))
    (threads : ∀ i, VertexAssertion v (vertexKey identity) i (ps i) g) :
    Q ((Prog.interleave graphHandler schedule ps g).2.vertices.find? (vertexKey identity)) ∧
      ∀ i, VertexAssertion v (vertexKey identity) i
        ((Prog.interleave graphHandler schedule ps g).1 i)
        (Prog.interleave graphHandler schedule ps g).2 := by
  refine Prog.interleave_invariant (G := fun g => Q (g.vertices.find? (vertexKey identity)))
    (T := VertexAssertion v (vertexKey identity)) ?_ ?_ schedule start threads
  · intro i c k m g held thread
    obtain ⟨written, ok, move⟩ := vertexAssertion_call same thread m
    refine ⟨keeps i written _ _ ok (tag_stored same ok g) move held, fun silent => ?_,
      fun answer answered => ?_⟩
    · obtain ⟨answer, answered⟩ := graphHandler_answers c m g
      rw [silent] at answered
      cases answered
    · rcases thread with ⟨written', ok', thread⟩ | ⟨e, refused⟩
      · refine Or.inl ⟨written', ok', ?_⟩
        rw [← key_prepared same ok'] at thread ⊢
        exact thread.next ok' answered
      · cases refused
  · intro i j _ c k m g _ thread p assertion
    obtain ⟨other, ok, move⟩ := vertexAssertion_call same thread m
    rcases assertion with ⟨written, ok', thread'⟩ | refused
    · exact Or.inl ⟨written, ok', thread'.move ok (tag_stored same ok g) move⟩
    · exact Or.inr refused

end Race

/-! ## The race -/

/-- The stored row carries what was stored before all calls. -/
def FromBefore (before : Option VertexRow) (row : VertexRow) : Prop :=
  ∃ row₀, before = some row₀ ∧ row.columns = row₀.columns ∧ row.syncedAt = row₀.syncedAt

/-- A later state of a stored row: the same identity and creation time, and not older. -/
def LaterRow (row : VertexRow) (stored : Option VertexRow) : Prop :=
  ∃ row', stored = some row' ∧ row'.sourceId = row.sourceId ∧ row'.stableId = row.stableId ∧
    row'.createdAt = row.createdAt ∧ row.syncedAt ≤ row'.syncedAt

theorem LaterRow.move {row written : VertexRow} {stored stored' : Option VertexRow}
    (later : LaterRow row stored) (move : VertexMove written stored stored') :
    LaterRow row stored' := by
  obtain ⟨row', found, source, stable, created, synced⟩ := later
  cases move with
  | same => exact ⟨row', found, source, stable, created, synced⟩
  | created => cases found
  | refreshed old older =>
      cases found
      exact ⟨_, rfl, source, stable, created, synced.trans older⟩

/-- What holds of the row stored under the common key of some calls. -/
structure VertexRace {ι : Type} [DecidableEq ι] (v : ι → TopologyVertex) (key : VertexKey)
    (g : Graph) (schedule : List (ι × GraphMove)) : Prop where
  /-- The stored properties and synchronisation time are those of one call, or the earlier ones. -/
  oneWriter : ∀ row,
    (Prog.interleave graphHandler schedule (fun i => upsertVertex (v i)) g).2.vertices.find? key =
      some row →
    FromBefore (g.vertices.find? key) row ∨ FromCall v row
  /-- The row is created as the row of the call whose statement creates it. -/
  created : ∀ i m row,
    (Prog.interleave graphHandler schedule (fun i => upsertVertex (v i)) g).2.vertices.find? key =
      none →
    (Prog.interleave graphHandler (schedule ++ [(i, m)]) (fun i => upsertVertex (v i))
      g).2.vertices.find? key = some row →
    prepareVertex (v i) = .ok row
  /-- A stored row stays, with its creation time and a synchronisation time that never decreases. -/
  later : ∀ more row,
    (Prog.interleave graphHandler schedule (fun i => upsertVertex (v i)) g).2.vertices.find? key =
      some row →
    LaterRow row ((Prog.interleave graphHandler (schedule ++ more) (fun i => upsertVertex (v i))
      g).2.vertices.find? key)
  /-- When every call has returned nil, the latest time has won, with the properties of a call that
  has this time, or with the earlier ones where these are strictly newer than every call. -/
  settled :
    (∀ i, (Prog.interleave graphHandler schedule (fun i => upsertVertex (v i)) g).1 i = .ret ()) →
    (g.vertices.find? key).isSome ∨ Nonempty ι →
    ∃ row,
      (Prog.interleave graphHandler schedule (fun i => upsertVertex (v i)) g).2.vertices.find? key =
        some row ∧
      IsGreatest {t | (∃ row₀, g.vertices.find? key = some row₀ ∧ row₀.syncedAt = t) ∨
        ∃ i, topologyTime (v i).syncedAt = t} row.syncedAt ∧
      (FromCall v row ∨ FromBefore (g.vertices.find? key) row ∧
        ∀ i, topologyTime (v i).syncedAt < row.syncedAt)

section

variable {ι : Type} [DecidableEq ι] {v : ι → TopologyVertex} {identity : EntityIdentity}

/-- One more step of a call at one of its stages moves the stored row. -/
theorem vertexMove_step (same : ∀ i, (v i).identity = identity) {ps : ι → GraphProg Unit}
    {g : Graph} (threads : ∀ i, VertexAssertion v (vertexKey identity) i (ps i) g) (i : ι)
    (m : GraphMove) :
    (Prog.interleave graphHandler [(i, m)] ps g).2 = g ∨
      ∃ written, prepareVertex (v i) = .ok written ∧
        VertexMove written (g.vertices.find? (vertexKey identity))
          ((Prog.interleave graphHandler [(i, m)] ps g).2.vertices.find? (vertexKey identity)) := by
  have here := threads i
  cases shape : ps i with
  | call c k =>
      rw [shape] at here
      obtain ⟨written, ok, move⟩ := vertexAssertion_call same here m
      refine Or.inr ⟨written, ok, ?_⟩
      obtain ⟨answer, -, step⟩ := stepOnce_statement c k m g
      simp only [Prog.interleave, shape, step]
      exact move
  | _ =>
      refine Or.inl ?_
      simp [Prog.interleave, shape, Prog.stepOnce]

/-- **Racing vertex writes.**  Calls on one identity, whatever their properties and times, in any
interleaving and stopped anywhere, keep the stored row whole. -/
theorem upsertVertex_race (same : ∀ i, (v i).identity = identity) (g : Graph)
    (schedule : List (ι × GraphMove)) : VertexRace v (vertexKey identity) g schedule := by
  have start := fun i => vertexAssertion_start (vertexKey identity) i g (v := v)
  have writer := vertex_interleave same
    (Q := fun stored => ∀ row, stored = some row →
      FromBefore (g.vertices.find? (vertexKey identity)) row ∨ FromCall v row)
    (fun i written stored stored' ok tags move held row found => by
      cases move with
      | same => exact held row found
      | created => cases found; exact Or.inr (.of_written ok)
      | refreshed old older => cases found; exact Or.inr (.refreshed ok (tags old rfl)))
    schedule (fun row found => Or.inl ⟨row, found, rfl, rfl⟩) start
  obtain ⟨oneWriter, threads⟩ := writer
  refine ⟨oneWriter, ?_, ?_, ?_⟩
  · intro i m row absent found
    rw [Prog.interleave_append] at found
    rcases vertexMove_step same threads i m with idle | ⟨written, ok, move⟩
    · rw [idle, absent] at found
      cases found
    · rw [absent, found] at move
      cases move
      exact ok
  · intro more row found
    rw [Prog.interleave_append]
    exact (vertex_interleave same (Q := LaterRow row)
      (fun i written stored stored' ok tags move later => later.move move) more
      ⟨row, found, rfl, rfl, rfl, le_rfl⟩ threads).1
  · intro returned someone
    -- Each call that returned has left a row that is not older than itself.
    have settled : ∀ i, ∃ written, prepareVertex (v i) = .ok written ∧ Settled v written
        ((Prog.interleave graphHandler schedule (fun i => upsertVertex (v i)) g).2.vertices.find?
          (vertexKey identity)) := by
      intro i
      have here := threads i
      rw [returned i] at here
      rcases here with ⟨written, ok, thread⟩ | ⟨e, refused⟩
      · refine ⟨written, ok, ?_⟩
        cases thread with
        | returned settled => exact settled
        | start here => cases here
        | check here present => cases here
        | refresh here present => cases here
      · cases refused
    have kept : ∀ row₀, g.vertices.find? (vertexKey identity) = some row₀ → LaterRow row₀
        ((Prog.interleave graphHandler schedule (fun i => upsertVertex (v i)) g).2.vertices.find?
          (vertexKey identity)) := fun row₀ found =>
      (vertex_interleave same (Q := LaterRow row₀)
        (fun i written stored stored' ok tags move later => later.move move) schedule
        ⟨row₀, found, rfl, rfl, rfl, le_rfl⟩ start).1
    obtain ⟨row, found⟩ : ∃ row, (Prog.interleave graphHandler schedule
        (fun i => upsertVertex (v i)) g).2.vertices.find? (vertexKey identity) = some row := by
      rcases someone with stored | ⟨⟨i⟩⟩
      · obtain ⟨row₀, before⟩ := Option.isSome_iff_exists.mp stored
        obtain ⟨row, found, -⟩ := kept row₀ before
        exact ⟨row, found⟩
      · obtain ⟨-, -, row, found, -⟩ := settled i
        exact ⟨row, found⟩
    have newer : ∀ i, topologyTime (v i).syncedAt ≤ row.syncedAt ∧
        (FromCall v row ∨ topologyTime (v i).syncedAt < row.syncedAt) := by
      intro i
      obtain ⟨written, ok, row', found', fresh, winner⟩ := settled i
      cases found.symm.trans found'
      rw [(prepareVertex_ok ok).2.2.2.2.2] at fresh winner
      exact ⟨fresh, winner⟩
    refine ⟨row, found, ⟨?_, ?_⟩, ?_⟩
    · rcases oneWriter row found with ⟨row₀, before, -, synced⟩ | ⟨i, written, ok, -, synced⟩
      · exact Or.inl ⟨row₀, before, synced.symm⟩
      · refine Or.inr ⟨i, ?_⟩
        rw [synced, (prepareVertex_ok ok).2.2.2.2.2]
    · rintro t (⟨row₀, before, rfl⟩ | ⟨i, rfl⟩)
      · obtain ⟨row', found', -, -, -, synced⟩ := kept row₀ before
        cases found.symm.trans found'
        exact synced
      · exact (newer i).1
    · by_cases winner : FromCall v row
      · exact Or.inl winner
      · refine Or.inr ⟨(oneWriter row found).resolve_right winner, fun i => ?_⟩
        exact (newer i).2.resolve_left winner

end

/-! A race of two calls on one interface, the second overtaking the first between its insert and its
update. -/

def sampleInterface : EntityIdentity := ⟨"s", .interface, "port-1"⟩

def namedInterface (name : String) (t : Time) : TopologyVertex :=
  ⟨sampleInterface, ⟨[("port_name", .string name)], by simp⟩, t, t⟩

theorem upsertVertex_race_two :
    VertexRace (fun late : Bool => if late then namedInterface "eth1" 2000 else
        namedInterface "eth0" 1000)
      (vertexKey sampleInterface) ⟨.empty, .empty⟩
      ([false, true, true, true, false, false].map fun i => (i, ⟨.none, []⟩)) :=
  upsertVertex_race (fun late => by cases late <;> rfl) _ _

end UnifiedInfraTopology
