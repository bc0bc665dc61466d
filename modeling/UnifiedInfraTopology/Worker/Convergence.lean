import UnifiedInfraTopology.Worker.Isolation

/-!
# What a finished run has made of the graph

`executeClaimed` completes its checkpoint last.  By then every call has returned, so that the graph has
exactly the records that the run has collected, at its snapshot, and, where the run has covered its
source, no older vertex of the scope that has no edge.  A canceled run returns nil too, and is not
meant: it leaves early, perhaps in the middle of a page.

* `keepsBirths_executeClaimed`: vertices keep the births they had, in every execution.
* `Synchronized`: the rows of a scope at a snapshot are those of some records.
* `executeClaimed_synchronizes`: so they are when `executeClaimed` has completed.
-/

namespace UnifiedInfraTopology

open Lib

/-! ## Writes that have returned -/

/-- A write that was called is outstanding, or has returned. -/
theorem returned_or_outstanding (writes : List WriteEvent) {v : TopologyVertex}
    (called : .startVertex v ∈ writes) :
    .vertex v ∈ outstanding writes ∨ ∃ written, .vertex v written ∈ writes := by
  induction writes using List.reverseRecOn with
  | nil => cases called
  | append_singleton writes e ih =>
      rw [outstanding_concat]
      rcases List.mem_append.mp called with old | new
      · rcases ih old with pending | ⟨written, returned⟩
        · cases e with
          | startVertex u => exact Or.inl (List.mem_append_left _ pending)
          | startRelation r => exact Or.inl (List.mem_append_left _ pending)
          | relation r written =>
              refine Or.inl ((List.mem_erase_of_ne fun same => ?_).mpr pending)
              cases same
          | vertex u written =>
              by_cases same : v = u
              · subst same
                exact Or.inr ⟨written, List.mem_append_right _ (List.mem_singleton_self _)⟩
              · refine Or.inl ((List.mem_erase_of_ne fun eq => same ?_).mpr pending)
                exact TopologyWrite.vertex.inj eq
        · exact Or.inr ⟨written, List.mem_append_left _ returned⟩
      · cases List.mem_singleton.mp new
        exact Or.inl (List.mem_append_right _ (List.mem_singleton_self _))

/-! ## The publication -/

/-- No row of the scope is an orphan. -/
def Graph.Cleaned (g : Graph) (scope : CleanupScope) : Prop :=
  ∀ v ∈ g.vertices.rows, g.orphan scope.tag scope.sourceId scope.before v = false

section

variable {run : SyncRun} {source : Source} {startedAt : Time} {sound : Prop} {selection : Selection}
  {cursor : DeviceSyncCursor} {p : Preparation source.id run.id selection.entity}
  {s : World syncService × GraphSide} {c : Call syncService}

variable (selection p) in
/-- The run was prepared, its source covered again or not, and cleaned up in the first case. -/
def Concluded (s : World syncService × GraphSide) : Prop :=
  ∃ covered, s.1.landmarks =
      p.landmarks selection.fullSource ++ [.covered selection.entity (some covered)] ∧
    s.2.Resting ∧ (selection.fullSource = true → covered = true →
      s.2.graph.Cleaned ⟨selection.entity, source.id, topologyTime p.checkpoint.cursor.snapshotAt⟩)

/-- The call is not one of the graph's, and adds no landmark. -/
def Call.silent : Call syncService → Bool
  | .control (.completeCheckpointAndRun _ _ _ _ _) => true
  | .control _ | .service _ => false
  | _ => true

theorem silent_system (silent : c.silent = true) (rest : s.2.Resting) (m : SystemMove) :
    (systemHandler c m s).2.1.landmarks = s.1.landmarks ∧ (systemHandler c m s).2.2 = s.2 := by
  constructor
  · refine observed_silent fun answer => ?_
    cases c with
    | control op => cases op <;> first | rfl | cases silent
    | service r => cases silent
    | _ => rfl
  · simp only [systemHandler, rest.turned]
    cases c with
    | service r => cases silent
    | _ => rfl

theorem Concluded.silent (concluded : Concluded selection p s) (silent : c.silent = true)
    (m : SystemMove) : Concluded selection p (systemHandler c m s).2 := by
  obtain ⟨covered, landmarks, rest, cleaned⟩ := concluded
  obtain ⟨same, side⟩ := silent_system silent rest m
  refine ⟨covered, same.trans landmarks, ?_, ?_⟩
  · rwa [side]
  · rwa [side]

theorem silent_leaveIfLost : leaveIfLost.Only fun c => c.silent = true := by
  refine Prog.only_bind ⟨rfl, fun _ => trivial⟩ fun lost => ?_
  split_ifs <;> trivial

theorem ensures_cleanUp (landmarks : s.1.landmarks = p.landmarks selection.fullSource)
    (rest : s.2.Resting) :
    Prog.Ensures systemHandler (cleanUp run source selection p.checkpoint.cursor.snapshotAt)
      (fun _ s' => Concluded selection p s') s := by
  refine Prog.contract_perform fun m covered _ answered => ?_
  have side : (systemHandler (.service (SyncRequest.coversFullSource source selection.entity)) m
      s).2.2 = s.2 := by
    simp only [systemHandler, rest.turned, GraphSide.after]
  have seen : (systemHandler (.service (SyncRequest.coversFullSource source selection.entity)) m
      s).2.1.landmarks = s.1.landmarks ++ [.covered selection.entity covered] :=
    observed_handler answered
  generalize (systemHandler (.service (SyncRequest.coversFullSource source selection.entity)) m
    s).2 = s' at side seen
  cases covered with
  | none => exact Prog.contract_bind (Prog.ensures_exitWith _ _)
  | some currentFullSource =>
      have trail : s'.1.landmarks = p.landmarks selection.fullSource ++
          [.covered selection.entity (some currentFullSource)] := by rw [seen, landmarks]
      have rest : s'.2.Resting := side ▸ rest
      refine Prog.contract_bind (Prog.contract_ret ?_)
      split_ifs with full
      · refine Prog.contract_perform fun m cleaned _ answered => ?_
        cases cleaned with
        | true =>
            refine Prog.contract_ret ⟨currentFullSource, ?_, ?_, fun _ _ => ?_⟩
            · exact (observed_silent fun _ => rfl).trans trail
            · simp only [systemHandler, rest.turned]
              exact rest
            · simp only [systemHandler, rest.turned, GraphSide.after] at answered ⊢
              exact noOrphans_of_cleanUp (cleaned_of_answered answered)
        | false =>
            exact Prog.contract_bind (Prog.contract_of_forall (fun _ _ => Prog.contract_bind
              (Prog.contract_of_forall (fun _ _ => Prog.ensures_exitWith _ _) fun _ _ => trivial))
                fun _ _ => trivial)
      · exact Prog.contract_ret ⟨currentFullSource, trail, rest, fun one two =>
          (full (by rw [one, two]; rfl)).elim⟩

theorem ensures_publish (landmarks : s.1.landmarks = p.landmarks selection.fullSource)
    (rest : s.2.Resting) :
    Prog.Ensures systemHandler (publish run source selection p.checkpoint.cursor.snapshotAt)
      (fun _ s' => Concluded selection p s') s := by
  have lost {I : World syncService × GraphSide → Prop} {s : World syncService × GraphSide}
      (keeps : ∀ c m s, c.silent = true → I s → I (systemHandler c m s).2) (here : I s) :
      Prog.Ensures systemHandler leaveIfLost (fun _ s' => I s') s :=
    Prog.ensures_of_only silent_leaveIfLost keeps here
  refine Prog.contract_bind (Prog.contract_mono (lost (I := fun s => s.1.landmarks =
    p.landmarks selection.fullSource ∧ s.2.Resting) (fun c m s silent here => ?_) ⟨landmarks, rest⟩)
      fun _ s' here => ?_)
  · obtain ⟨same, side⟩ := silent_system silent here.2 m
    exact ⟨same.trans here.1, side ▸ here.2⟩
  refine Prog.contract_bind (Prog.contract_mono (ensures_cleanUp here.1 here.2)
    fun _ s' concluded => ?_)
  refine Prog.contract_bind (Prog.contract_mono (lost (fun _ m _ silent here => here.silent silent m)
    concluded) fun _ s' concluded => ?_)
  refine Prog.contract_perform fun m now _ _ => Prog.contract_perform fun m' completed _ _ => ?_
  have concluded := (concluded.silent (c := .now) rfl m).silent
    (c := .control (.completeCheckpointAndRun source.id selection.resource run.id .publishing
      (Time.truncateMicro now))) rfl m'
  cases completed with
  | some reply => exact Prog.contract_ret concluded
  | none =>
      exact Prog.contract_bind (Prog.contract_of_forall (fun _ _ => Prog.ensures_exitWith _ _)
        fun _ _ => trivial)

end

section

variable {worker : SyncWorker} {run : SyncRun} {source : Source} {startedAt : Time}
  {start : World syncService}

/-- Wherever the preparation gets, the system is sound. -/
theorem sound_prepare (fresh : start.log = []) (first : Graph) :
    Prog.wp systemHandler (fun _ => True) (prepare worker run source startedAt)
      (fun _ s => SystemSound first s) (start, ⟨first, [], []⟩) := by
  have joins : Joins (prepare worker run source startedAt) start :=
    joins_prepare (joined_start fresh)
  have cleans : (prepare worker run source startedAt).Issues handler
      (CleansUpPrepared source.id run.id) start :=
    Prog.issues_of_only (preparing_prepare worker run source startedAt)
      fun _ _ => cleansUpPrepared_of_preparing
  have issues := systemIssues_of_issues ⟨first, [], []⟩ joins.issues cleans
  exact Prog.wp_of_issues (fun c m s may sound => systemSound_handler sound may m) issues
    (systemSound_start fresh first)

/-- A prepared run has nothing in flight. -/
theorem ensures_prepare (fresh : start.log = []) (first : Graph) :
    Prog.Ensures systemHandler (prepare worker run source startedAt) (fun prepared s =>
      (∃ p, PreparedAs run source startedAt False prepared.1 prepared.2 p s.1) ∧ s.2.Resting)
      (start, ⟨first, [], []⟩) := by
  have joins : Joins (prepare worker run source startedAt) start :=
    joins_prepare (joined_start fresh)
  have joined : Prog.Ensures handler (prepare worker run source startedAt) (fun _ w => Joined w) start :=
    Prog.wp_mono joins.ends fun o w post => by
      cases o with
      | ok a => exact post
      | _ => trivial
  have sound : Prog.Ensures systemHandler (prepare worker run source startedAt)
      (fun _ s => SystemSound first s) (start, ⟨first, [], []⟩) :=
    Prog.wp_mono (sound_prepare fresh first) fun o s post => by
      cases o with
      | ok a => exact post
      | _ => trivial
  have trail : Trail run.id False (Started startedAt) [] start := trail_start fresh
  have prepared : Prog.Ensures handler (prepare worker run source startedAt) (fun prepared w =>
      ∃ p, PreparedAs run source startedAt False prepared.1 prepared.2 p w) start :=
    trail_prepare trail
  have prepared := projects_system.ensures (s := (start, ⟨first, [], []⟩)) prepared
  have rests := projects_system.ensures (s := (start, ⟨first, [], []⟩)) joined
  refine Prog.contract_mono (Prog.ensures_and prepared (Prog.ensures_and rests sound)) ?_
  rintro a s ⟨prepared, joined, sound⟩
  exact ⟨prepared, resting_of_joined sound joined⟩

theorem ensures_executeClaimed (fresh : start.log = []) (first : Graph) :
    Prog.Ensures systemHandler (executeClaimed worker run source startedAt) (fun _ s =>
      ∃ selection, ∃ p : Preparation source.id run.id selection.entity, Concluded selection p s)
      (start, ⟨first, [], []⟩) := by
  refine Prog.contract_bind (Prog.contract_mono (ensures_prepare fresh first) ?_)
  rintro ⟨selection, cursor⟩ s ⟨⟨p, prepared⟩, rest⟩
  have begun : cursor = p.checkpoint.cursor := prepared.begun
  rw [begun]
  exact Prog.contract_mono (ensures_publish prepared.trail.landmarks rest)
    fun _ _ concluded => ⟨selection, p, concluded⟩

/-! ## Births -/

theorem uncleaned_handler {c : Call syncService} {w : World syncService} (preparing : c.concludes = false)
    (m : Move syncService) (uncleaned : ∀ scope, ¬w.CalledCleanup scope) :
    ∀ scope, ¬(handler c m w).2.CalledCleanup scope := by
  intro scope called
  rw [World.CalledCleanup, filterMap_handler (fun e background => ?_)] at called
  · rcases List.mem_append.mp called with old | new
    · exact uncleaned scope old
    · rw [Option.mem_toList] at new
      unfold Event.cleanup? at new
      split at new <;> cases new
      rename_i same
      cases same
      cases preparing
  · cases e with
    | call => cases background
    | _ => rfl

/-- A call of the publication keeps the births: its cleanup only takes rows away. -/
theorem keepsBirths_closing {c : Call syncService} {s : World syncService × GraphSide} {first : Graph}
    {resource : String} (closing : c.Closing source.id resource) (rest : s.2.Resting)
    (births : first.KeepsBirths s.2.graph) (m : SystemMove) :
    (systemHandler c m s).2.2.Resting ∧ first.KeepsBirths (systemHandler c m s).2.2.graph := by
  simp only [systemHandler, rest.turned]
  cases c with
  | service r =>
      cases r with
      | deleteOrphanVerticesNotSeen id entity cutoff =>
          exact ⟨rest, births.cleanedUp (orphansLeft_run _ _)⟩
      | coversFullSource => exact ⟨rest, births⟩
      | _ => cases closing
  | _ => exact ⟨rest, births⟩

/-- **Vertices keep their births.**  Until the run is prepared nothing is taken away, so that a call
finds the row that was there; from then on no row is written. -/
theorem keepsBirths_executeClaimed (script : List SystemMove) (fresh : start.log = []) (first : Graph) :
    first.KeepsBirths ((executeClaimed worker run source startedAt).run systemHandler script
      (start, ⟨first, [], []⟩)).2.1.2.graph := by
  have uncleaned : Prog.wp systemHandler (fun _ => True) (prepare worker run source startedAt)
      (fun _ s => ∀ scope, ¬s.1.CalledCleanup scope) (start, ⟨first, [], []⟩) := by
    refine Prog.wp_of_only (preparing_prepare worker run source startedAt)
      (fun c m s preparing none_ _ => uncleaned_handler preparing _ none_) fun scope called => ?_
    rw [World.CalledCleanup, fresh] at called
    cases called
  have published (prepared : Selection × DeviceSyncCursor) (s : World syncService × GraphSide)
      (here : s.2.Resting ∧ first.KeepsBirths s.2.graph) :
      Prog.wp systemHandler (fun _ => True)
        (publish run source prepared.1 prepared.2.snapshotAt)
        (fun _ s' => s'.2.Resting ∧ first.KeepsBirths s'.2.graph) s :=
    Prog.wp_of_only (closing_publish run source prepared.1 prepared.2.snapshotAt)
      (fun c m s closing here _ => keepsBirths_closing closing here.1 here.2 m) here
  refine Prog.wp_run (Q := fun _ s => first.KeepsBirths s.2.graph)
    (Prog.shrinking_true systemHandler) (Prog.wp_bind ?_) script trivial
  refine Prog.wp_mono (Prog.wp_and (sound_prepare fresh first)
    (Prog.wp_and uncleaned (ensures_prepare fresh first))) ?_
  rintro o s ⟨sound, none_, rested⟩
  have births : first.KeepsBirths s.2.graph := sound.sound.history.keepsBirths none_
  cases o with
  | ok prepared => exact Prog.wp_mono (published prepared s ⟨rested.2, births⟩) fun _ _ kept => kept.2
  | error e => exact births
  | pending => exact births

end

/-! ## The graph of a finished run -/

/-- The rows of a scope that have this time. -/
def Graph.current (g : Graph) (tag : EntityType) (sourceId : String) (t : Time) : List VertexRow :=
  g.vertices.rows.filter fun v => v.tag = tag ∧ v.sourceId = sourceId ∧ v.syncedAt = t

/-- The row of a record: its columns are those of the record.  Where a row was stored under its key
before, that was a row of the record, and its birth is kept; else it was born at the snapshot. -/
structure RecordStored (sourceId : String) (entity : EntityType) (snapshotAt : Time) (first : Graph)
    (r : EntityRecord) (v : VertexRow) : Prop where
  row : ∃ row, prepareVertex (recordVertex sourceId entity snapshotAt r) = .ok row ∧
    v.key = row.key ∧ v.columns = row.columns
  named : v.sourceId = sourceId ∧ v.stableId = r.identity
  syncedAt : v.syncedAt = topologyTime snapshotAt
  kept : ∀ v₀, first.vertices.find? v.key = some v₀ →
    v₀.sourceId = sourceId ∧ v₀.stableId = r.identity ∧ v.createdAt = v₀.createdAt
  created : first.vertices.find? v.key = none → v.createdAt = topologyTime snapshotAt

/-- The rows of the scope at the snapshot are those of the records, one for each, and interfaces are
linked to their owners. -/
structure Synchronized (sourceId : String) (entity : EntityType) (snapshotAt : Time)
    (records : List EntityRecord) (first g : Graph) : Prop where
  stored : ∀ r ∈ records, ∃ v ∈ g.current entity sourceId (topologyTime snapshotAt),
    RecordStored sourceId entity snapshotAt first r v
  exact_ : ((g.current entity sourceId (topologyTime snapshotAt)).map (·.stableId)).Perm
    (records.map (·.identity))
  linked : entity = .interface →
    ∀ r ∈ records, EdgeLanded g (ownerRelation sourceId entity snapshotAt r)

section

variable {sourceId runId : String} {entity : EntityType} {p : Preparation sourceId runId entity}
  {fullSource : Bool} {extra : List Landmark} {first : Graph} {s : World syncService × GraphSide}
  {v : VertexRow}

theorem recordsRead_eq (later : ∀ l ∈ extra, l.collecting = false) :
    recordsRead .first (p.landmarks fullSource ++ extra) = allRecords p.pages := by
  have first : ∀ l : Landmark, l.collecting = false → l.page? .first = none := by
    intro l others
    cases l with
    | page pass page =>
        cases pass with
        | first => cases others
        | second => rfl
    | _ => rfl
  rw [recordsRead, filterMap_collected first later, p.collects.pages_eq.1]

theorem Preparation.distinct (p : Preparation sourceId runId entity) :
    ((allRecords p.pages).map (·.identity)).Nodup := by
  obtain ⟨seen, added⟩ := Option.isSome_iff_exists.mp p.identities
  obtain ⟨rfl, -, distinct⟩ := addEntityIdentities_some added
  simpa using distinct List.nodup_nil

/-- With nothing in flight, the rows that were called are those of the records. -/
theorem called_of_resting (sound : SystemSound first s) (rest : s.2.Resting)
    (landmarks : s.1.landmarks = p.landmarks fullSource ++ extra)
    (later : ∀ l ∈ extra, l.collecting = false) {u : TopologyVertex} (called : s.1.CalledVertex u) :
    ∃ r ∈ allRecords p.pages, u = recordVertex sourceId entity p.checkpoint.cursor.snapshotAt r := by
  have none_ : outstanding s.1.writes = [] := by
    have inFlight := sound.inFlight
    simp only [GraphSide.writing, rest.1, rest.2, List.map_nil, List.append_nil] at inFlight
    exact inFlight.symm.eq_nil
  rcases returned_or_outstanding s.1.writes called with pending | ⟨written, returned⟩
  · rw [none_] at pending
    cases pending
  · have seen := World.mem_landmarks_of_writes.1 u written returned
    rw [landmarks] at seen
    rcases List.mem_append.mp seen with here | here
    · exact p.vertex_eq here
    · cases later _ here

/-- A row that is not one of the first is that of a record. -/
theorem recordStored_of_origin (sound : SystemSound first s) (rest : s.2.Resting)
    (births : first.KeepsBirths s.2.graph)
    (landmarks : s.1.landmarks = p.landmarks fullSource ++ extra)
    (later : ∀ l ∈ extra, l.collecting = false) (stored : v ∈ s.2.graph.vertices.rows)
    (fresh : first.vertices.find? v.key ≠ some v) : ∃ r ∈ allRecords p.pages,
      RecordStored sourceId entity p.checkpoint.cursor.snapshotAt first r v := by
  have called := @called_of_resting _ _ _ p fullSource extra first s sound rest landmarks later
  have origin := sound.sound.history.vertices.origin v.key v (Table.find?_of_mem stored)
  obtain ⟨row, known, key, named, born, -⟩ := origin.born
  rcases origin.written with old | ⟨row', ⟨u, called', prepared⟩, key', named', made⟩
  · exact (fresh old).elim
  · obtain ⟨r, inside, rfl⟩ := called called'
    obtain ⟨-, -, source, stable, -, synced⟩ := prepareVertex_ok prepared
    simp only [vertexUpserts, Prod.mk.injEq] at named named'
    have own : v.sourceId = sourceId ∧ v.stableId = r.identity :=
      ⟨named'.1.symm.trans source, named'.2.symm.trans stable⟩
    refine ⟨r, inside, ⟨row', prepared, key'.symm, ?_⟩, own, ?_, fun v₀ found => ?_, fun unknown => ?_⟩
    · rcases made with rfl | ⟨old, rfl⟩
      · rfl
      · exact columns_merge key'.symm
    · rcases made with rfl | ⟨old, rfl⟩
      · exact synced
      · exact synced
    · obtain ⟨source₀, stable₀, born₀⟩ := births v stored v₀ found
      exact ⟨source₀.trans own.1, stable₀.trans own.2, born₀⟩
    · rcases known with known | ⟨u', called'', prepared'⟩
      · rw [key] at known
        cases unknown.symm.trans known
      · obtain ⟨r', -, rfl⟩ := called called''
        obtain ⟨-, -, -, -, created, -⟩ := prepareVertex_ok prepared'
        exact born.symm.trans created

/-- The rows of the scope are older than the snapshot. -/
def Graph.Older (g : Graph) (tag : EntityType) (sourceId : String) (t : Time) : Prop :=
  ∀ v ∈ g.vertices.rows, v.tag = tag → v.sourceId = sourceId → v.syncedAt < t

/-- The row of every record is current. -/
theorem current_of_landed (sound : SystemSound first s) (rest : s.2.Resting)
    (births : first.KeepsBirths s.2.graph)
    (landmarks : s.1.landmarks = p.landmarks fullSource ++ extra)
    (later : ∀ l ∈ extra, l.collecting = false)
    (older : first.Older entity sourceId (topologyTime p.checkpoint.cursor.snapshotAt))
    {r : EntityRecord} (inside : r ∈ allRecords p.pages) :
    ∃ v ∈ s.2.graph.current entity sourceId (topologyTime p.checkpoint.cursor.snapshotAt),
      RecordStored sourceId entity p.checkpoint.cursor.snapshotAt first r v := by
  have returned : .vertex (recordVertex sourceId entity p.checkpoint.cursor.snapshotAt r) true ∈
      s.1.landmarks := by
    rw [landmarks]
    exact List.mem_append_left _ (p.written fullSource r inside).1
  obtain ⟨row, prepared, v, found, named, newer⟩ :=
    sound.vertices _ (World.mem_writes_of_landmarks.1 _ _ returned)
  obtain ⟨-, tag, source, stable, -, synced⟩ := prepareVertex_ok prepared
  have key : v.key = row.key := Table.key_of_find? found
  have stored : v ∈ s.2.graph.vertices.rows := Table.mem_of_find? found
  have tagged : v.tag = entity := (congrArg Prod.fst key).trans tag
  simp only [vertexUpserts, Prod.mk.injEq] at named newer
  have own : v.sourceId = sourceId := named.1.trans source
  have fresh : first.vertices.find? v.key ≠ some v := by
    intro old
    have before := older v (Table.mem_of_find? old) tagged own
    rw [synced] at newer
    exact absurd before newer.not_gt
  obtain ⟨r', inside', stored'⟩ :=
    recordStored_of_origin (p := p) sound rest births landmarks later stored fresh
  have same : r' = r := by
    refine List.inj_on_of_nodup_map p.distinct inside' inside ?_
    exact stored'.named.2.symm.trans (named.2.trans stable)
  rw [same] at stored'
  refine ⟨v, List.mem_filter.mpr ⟨stored, decide_eq_true ⟨tagged, own, stored'.syncedAt⟩⟩, stored'⟩

/-- Rows of the same record are the same. -/
theorem RecordStored.unique {snapshotAt : Time} {r : EntityRecord} {g : Graph} {v v' : VertexRow}
    (stored : RecordStored sourceId entity snapshotAt first r v)
    (stored' : RecordStored sourceId entity snapshotAt first r v') (inside : v ∈ g.vertices.rows)
    (inside' : v' ∈ g.vertices.rows) : v = v' := by
  obtain ⟨row, prepared, key, -⟩ := stored.row
  obtain ⟨row', prepared', key', -⟩ := stored'.row
  cases prepared.symm.trans prepared'
  exact Table.eq_of_mem inside inside' (key.trans key'.symm)

theorem synchronized_of_resting (sound : SystemSound first s) (rest : s.2.Resting)
    (births : first.KeepsBirths s.2.graph)
    (landmarks : s.1.landmarks = p.landmarks fullSource ++ extra)
    (later : ∀ l ∈ extra, l.collecting = false)
    (older : first.Older entity sourceId (topologyTime p.checkpoint.cursor.snapshotAt)) :
    Synchronized sourceId entity p.checkpoint.cursor.snapshotAt (allRecords p.pages) first
      s.2.graph := by
  have current {v : VertexRow} (member : v ∈ s.2.graph.current entity sourceId
      (topologyTime p.checkpoint.cursor.snapshotAt)) : v ∈ s.2.graph.vertices.rows ∧
        ∃ r ∈ allRecords p.pages,
          RecordStored sourceId entity p.checkpoint.cursor.snapshotAt first r v := by
    obtain ⟨stored, scope⟩ := List.mem_filter.mp member
    obtain ⟨tagged, own, synced⟩ := of_decide_eq_true scope
    refine ⟨stored, recordStored_of_origin (p := p) sound rest births landmarks later stored fun old => ?_⟩
    exact absurd synced (older v (Table.mem_of_find? old) tagged own).ne
  have rows {r : EntityRecord} (inside : r ∈ allRecords p.pages) :=
    current_of_landed sound rest births landmarks later older inside
  refine ⟨fun r inside => rows inside, ?_, fun ports r inside => ?_⟩
  · refine (List.perm_ext_iff_of_nodup ?_ p.distinct).mpr fun stable => ?_
    · refine List.Nodup.map_on (fun v member v' member' same => ?_) ?_
      · obtain ⟨stored, r, inside, here⟩ := current member
        obtain ⟨stored', r', inside', here'⟩ := current member'
        have one : r = r' := List.inj_on_of_nodup_map p.distinct inside inside'
          (here.named.2.symm.trans (same.trans here'.named.2))
        subst one
        exact here.unique here' stored stored'
      · exact (List.Nodup.of_map _ s.2.graph.vertices.nodup).filter _
    · constructor
      · intro member
        obtain ⟨v, here, rfl⟩ := List.mem_map.mp member
        obtain ⟨-, r, inside, stored⟩ := current here
        exact List.mem_map.mpr ⟨r, inside, stored.named.2.symm⟩
      · intro member
        obtain ⟨r, inside, rfl⟩ := List.mem_map.mp member
        obtain ⟨v, here, stored⟩ := rows inside
        exact List.mem_map.mpr ⟨v, here, stored.named.2⟩
  · have returned : .relation (ownerRelation sourceId entity p.checkpoint.cursor.snapshotAt r) true ∈
        s.1.landmarks := by
      rw [landmarks]
      exact List.mem_append_left _ ((p.written fullSource r inside).2 ports)
    exact sound.relations _ (World.mem_writes_of_landmarks.2 _ _ returned)

end

/-- **A finished run has synchronised the graph.**  Where `executeClaimed` completes, over a graph
whose rows of the scope are older than its snapshot, however the statements interleave and whatever
faults there were: the rows of the scope at the snapshot are those of the collected records, one
for each, with its columns and its first birth; interfaces are linked to their owners; and where the
source was covered at the start and at the end, no older vertex of the scope without an edge is left. -/
theorem executeClaimed_synchronizes (worker : SyncWorker) (run : SyncRun) (source : Source)
    (startedAt : Time) (script : List SystemMove) (start : World syncService)
    (fresh : start.log = []) (first : Graph)
    (completed : ((executeClaimed worker run source startedAt).run systemHandler script
      (start, ⟨first, [], []⟩)).1 = .ok ()) :
    ∃ w side entity checkpoint, (w, side) = ((executeClaimed worker run source startedAt).run
        systemHandler script (start, ⟨first, [], []⟩)).2.1 ∧
      .begun checkpoint ∈ w.landmarks ∧ checkpoint.cursor.runId = run.id ∧
      (first.Older entity source.id (topologyTime checkpoint.cursor.snapshotAt) →
        Synchronized source.id entity checkpoint.cursor.snapshotAt
          (recordsRead .first w.landmarks) first side.graph) ∧
      ∃ covered covered', w.landmarks.head? = some (.covered entity (some covered)) ∧
        w.landmarks.getLast? = some (.covered entity (some covered')) ∧
        (covered = true → covered' = true → side.graph.Cleaned
          ⟨entity, source.id, topologyTime checkpoint.cursor.snapshotAt⟩) := by
  have sound := systemSound_executeClaimed worker run source startedAt script fresh first
  have births : first.KeepsBirths ((executeClaimed worker run source startedAt).run systemHandler
      script (start, ⟨first, [], []⟩)).2.1.2.graph := keepsBirths_executeClaimed script fresh first
  have ensured : Prog.Ensures systemHandler (executeClaimed worker run source startedAt) _
      (start, ⟨first, [], []⟩) := ensures_executeClaimed fresh first
  obtain ⟨selection, p, covered, landmarks, rest, cleaned⟩ :=
    (Prog.contract_run (Prog.shrinking_true systemHandler) ensured script trivial).1 () completed
  have later : ∀ l ∈ [Landmark.covered selection.entity (some covered)], l.collecting = false := by
    intro l member
    cases List.mem_singleton.mp member
    rfl
  refine ⟨_, _, selection.entity, p.checkpoint, rfl, ?_, p.begun.1, fun older => ?_,
    selection.fullSource, covered, ?_, ?_, cleaned⟩
  · rw [landmarks]
    simp [Preparation.landmarks]
  · rw [landmarks, recordsRead_eq later]
    exact synchronized_of_resting sound rest births landmarks later older
  · rw [landmarks]
    rfl
  · rw [landmarks, List.getLast?_append]
    rfl

/-- The run that collects the device has synchronised the graph with the two others. -/
theorem executeClaimed_synchronizes_device : ∃ entity records,
    Synchronized "s" entity 2000 records devicesGraph executeDeviceSystem.2.1.2.graph := by
  obtain ⟨returned, begins, -⟩ := executeDeviceSystem_ran
  unfold executeDeviceSystem at returned begins ⊢
  obtain ⟨w, side, entity, checkpoint, same, begun, -, synchronizes, -⟩ :=
    executeClaimed_synchronizes ⟨1, 3⟩ (Store.claimed 2000 (queuedRun "r" "s"))
      ⟨"s", "lab", "cmdb", "ref", true⟩ 2000 systemScript claimedWorld rfl devicesGraph returned
  rw [← same] at begins ⊢
  have snapshot : checkpoint.cursor.snapshotAt = 2000 := begins _ begun checkpoint rfl
  rw [snapshot] at synchronizes
  refine ⟨entity, _, synchronizes fun v member _ _ => ?_⟩
  have times : ∀ v ∈ devicesGraph.vertices.rows, v.syncedAt < topologyTime 2000 := by decide
  exact times v member

end UnifiedInfraTopology
