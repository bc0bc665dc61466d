import UnifiedInfraTopology.Lib.History
import UnifiedInfraTopology.Lib.Parties
import UnifiedInfraTopology.Worker.Landmarks
import UnifiedInfraTopology.Worker.Terminal

/-!
# What `writeEntityPage` has written

The goroutines of a page run concurrently; the scheduler decides who goes next.  `Writing` is the
invariant of the pool: each record of the page is waiting, running or done, and the writes that
returned are those of the records that have got so far.

`trail_writeEntityPage`: a `writeEntityPage` that returns nil has written every record of the page
once, and the relation of an interface after the interface.
-/

namespace UnifiedInfraTopology

open Lib

section

variable (sourceId : String) (entity : EntityType) (snapshotAt : Time)

/-- A call on a record of the page, or the answer of one that succeeded. -/
def Writes (records : List EntityRecord) (l : Landmark) : Prop :=
  ∃ r ∈ records, l = .launched (recordVertex sourceId entity snapshotAt r) ∨
    l = .vertex (recordVertex sourceId entity snapshotAt r) true ∨
    l = .relation (ownerRelation sourceId entity snapshotAt r) true

/-- A relation is written when its interface has been. -/
def AfterVertex (records : List EntityRecord) (past : List Landmark) : Landmark → Prop
  | .relation relation _ => ∃ r ∈ records, relation = ownerRelation sourceId entity snapshotAt r ∧
      .vertex (recordVertex sourceId entity snapshotAt r) true ∈ past
  | _ => True

/-- The relations to write for some records. -/
def pageRelations (records : List EntityRecord) : List Relation :=
  if entity = .interface then records.map (ownerRelation sourceId entity snapshotAt) else []

/-- Every record of the page was written once. -/
structure PageWritten (records : List EntityRecord) (writes : List Landmark) : Prop where
  entries : ∀ l ∈ writes, Writes sourceId entity snapshotAt records l
  vertices : (writes.filterMap Landmark.vertex?).Perm
    (records.map (recordVertex sourceId entity snapshotAt))
  relations : (writes.filterMap Landmark.relation?).Perm
    (pageRelations sourceId entity snapshotAt records)
  ordered : Throughout (AfterVertex sourceId entity snapshotAt records) [] writes

/-- The records whose relation is being written. -/
def linked (running : List (EntityRecord × WriteStage)) : List EntityRecord :=
  (running.filter fun p => p.2 = .relation).map Prod.fst

/-- The pool, the records that are done, and the writes that returned. -/
structure Writing (records waiting : List EntityRecord) (running : List (EntityRecord × WriteStage))
    (done : List EntityRecord) (writes : List Landmark) : Prop where
  assigned : (waiting ++ (running.map Prod.fst ++ done)).Perm records
  entries : ∀ l ∈ writes, Writes sourceId entity snapshotAt records l
  vertices : (writes.filterMap Landmark.vertex?).Perm
    ((linked running ++ done).map (recordVertex sourceId entity snapshotAt))
  relations : (writes.filterMap Landmark.relation?).Perm
    (pageRelations sourceId entity snapshotAt done)
  owned : ∀ p ∈ running, p.2 = .relation → entity = .interface ∧
    .vertex (recordVertex sourceId entity snapshotAt p.1) true ∈ writes
  ordered : Throughout (AfterVertex sourceId entity snapshotAt records) [] writes

end

section

variable {sourceId : String} {entity : EntityType} {snapshotAt : Time}
  {records waiting done : List EntityRecord} {running rest : List (EntityRecord × WriteStage)}
  {writes : List Landmark} {r : EntityRecord}

theorem Writing.start (records : List EntityRecord) :
    Writing sourceId entity snapshotAt records records [] [] [] where
  assigned := by simp
  entries _ member := (List.not_mem_nil member).elim
  vertices := .refl _
  relations := by simp [pageRelations]
  owned _ member := (List.not_mem_nil member).elim
  ordered := throughout_nil

/-- The order of the goroutines does not matter. -/
theorem Writing.perm (writing : Writing sourceId entity snapshotAt records waiting running done writes)
    (same : running.Perm rest) :
    Writing sourceId entity snapshotAt records waiting rest done writes where
  assigned := ((((same.map Prod.fst).append_right done).append_left waiting).symm).trans writing.assigned
  entries := writing.entries
  vertices := writing.vertices.trans ((((same.filter _).map Prod.fst).append_right done).map _)
  relations := writing.relations
  owned p member := writing.owned p (same.mem_iff.mpr member)
  ordered := writing.ordered

theorem Writing.launched
    (writing : Writing sourceId entity snapshotAt records (r :: waiting) running done writes) :
    Writing sourceId entity snapshotAt records waiting (running ++ [(r, .vertex)]) done
      (writes ++ [.launched (recordVertex sourceId entity snapshotAt r)]) where
  assigned := by
    refine List.Perm.trans ?_ writing.assigned
    have moved : (running.map Prod.fst ++ [r]).Perm (r :: running.map Prod.fst) :=
      List.perm_append_singleton _ _
    simpa using ((moved.append_right done).append_left waiting).trans List.perm_middle
  entries l member := by
    rcases List.mem_append.mp member with old | new
    · exact writing.entries l old
    · exact ⟨r, writing.assigned.mem_iff.mp List.mem_cons_self, Or.inl (List.mem_singleton.mp new)⟩
  vertices := by simpa [linked, List.filterMap_cons, Landmark.vertex?] using writing.vertices
  relations := by simpa [List.filterMap_cons, Landmark.relation?] using writing.relations
  owned p member stage := by
    rcases List.mem_append.mp member with old | new
    · obtain ⟨ports, written⟩ := writing.owned p old stage
      exact ⟨ports, List.mem_append_left _ written⟩
    · cases List.mem_singleton.mp new
      cases stage
  ordered := throughout_concat.mpr ⟨writing.ordered, trivial⟩

/-- The writes grow by a write of a record that is running. -/
theorem Writing.entries_concat {l : Landmark} {stage : WriteStage}
    (writing : Writing sourceId entity snapshotAt records waiting ((r, stage) :: rest) done writes)
    (here : l = .vertex (recordVertex sourceId entity snapshotAt r) true ∨
      l = .relation (ownerRelation sourceId entity snapshotAt r) true) :
    ∀ l' ∈ writes ++ [l], Writes sourceId entity snapshotAt records l' := by
  intro l' member
  rcases List.mem_append.mp member with old | new
  · exact writing.entries l' old
  · cases List.mem_singleton.mp new
    have inside : r ∈ records :=
      writing.assigned.mem_iff.mp (List.mem_append_right _ (List.mem_append_left _ (by simp)))
    exact ⟨r, inside, Or.inr here⟩

/-- An interface was written; its relation is next. -/
theorem Writing.port (ports : entity = .interface)
    (writing : Writing sourceId entity snapshotAt records waiting ((r, .vertex) :: rest) done
      writes) :
    Writing sourceId entity snapshotAt records waiting ((r, .relation) :: rest) done
      (writes ++ [.vertex (recordVertex sourceId entity snapshotAt r) true]) where
  assigned := writing.assigned
  entries := writing.entries_concat (Or.inl rfl)
  vertices := by
    have before := writing.vertices
    simp only [linked, List.filter_cons, reduceCtorEq, decide_false,
      Bool.false_eq_true, ↓reduceIte] at before
    simp only [linked, List.filterMap_append, List.filter_cons, decide_true,
      ↓reduceIte, List.map_cons, List.cons_append]
    exact (List.perm_append_singleton _ _).trans (before.cons _)
  relations := by simpa [List.filterMap_cons, Landmark.relation?] using writing.relations
  owned p member stage := by
    rcases List.mem_cons.mp member with rfl | old
    · exact ⟨ports, by simp⟩
    · obtain ⟨ports, written⟩ := writing.owned p (List.mem_cons_of_mem _ old) stage
      exact ⟨ports, List.mem_append_left _ written⟩
  ordered := throughout_concat.mpr ⟨writing.ordered, trivial⟩

/-- A record without a relation was written. -/
theorem Writing.finished (others : entity ≠ .interface)
    (writing : Writing sourceId entity snapshotAt records waiting ((r, .vertex) :: rest) done
      writes) :
    Writing sourceId entity snapshotAt records waiting rest (r :: done)
      (writes ++ [.vertex (recordVertex sourceId entity snapshotAt r) true]) where
  assigned := by
    refine List.Perm.trans ?_ writing.assigned
    exact (List.perm_middle (a := r)).append_left waiting
  entries := writing.entries_concat (Or.inl rfl)
  vertices := by
    have before := writing.vertices
    simp only [linked, List.filter_cons, reduceCtorEq, decide_false,
      Bool.false_eq_true, ↓reduceIte] at before
    simp only [List.filterMap_append]
    refine (List.perm_append_singleton _ _).trans ((before.cons _).trans ?_)
    exact ((List.perm_middle (a := r)).map (recordVertex sourceId entity snapshotAt)).symm
  relations := by simpa [List.filterMap_cons, Landmark.relation?, pageRelations, others] using writing.relations
  owned p member stage := by
    exact (others (writing.owned p (List.mem_cons_of_mem _ member) stage).1).elim
  ordered := throughout_concat.mpr ⟨writing.ordered, trivial⟩

/-- The relation of an interface was written. -/
theorem Writing.related
    (writing : Writing sourceId entity snapshotAt records waiting ((r, .relation) :: rest) done
      writes) :
    Writing sourceId entity snapshotAt records waiting rest (r :: done)
      (writes ++ [.relation (ownerRelation sourceId entity snapshotAt r) true]) where
  assigned := by
    refine List.Perm.trans ?_ writing.assigned
    exact (List.perm_middle (a := r)).append_left waiting
  entries := writing.entries_concat (Or.inr rfl)
  vertices := by
    have before := writing.vertices
    simp only [linked, List.filter_cons, decide_true, ↓reduceIte,
      List.map_cons, List.cons_append] at before
    simp only [List.filterMap_append, Landmark.vertex?, List.filterMap_cons, List.filterMap_nil,
      List.append_nil]
    refine before.trans ?_
    exact ((List.perm_middle (a := r)).map (recordVertex sourceId entity snapshotAt)).symm
  relations := by
    have ports := (writing.owned _ List.mem_cons_self rfl).1
    have before := writing.relations
    simp only [pageRelations, ports, ↓reduceIte] at before
    simp only [pageRelations, ports, ↓reduceIte, List.filterMap_append, List.map_cons]
    exact (List.perm_append_singleton _ _).trans (before.cons _)
  owned p member stage := by
    obtain ⟨ports, written⟩ := writing.owned p (List.mem_cons_of_mem _ member) stage
    exact ⟨ports, List.mem_append_left _ written⟩
  ordered := by
    have written := (writing.owned _ List.mem_cons_self rfl).2
    have inside : r ∈ records :=
      writing.assigned.mem_iff.mp (List.mem_append_right _ (List.mem_append_left _ (by simp)))
    exact throughout_concat.mpr ⟨writing.ordered, r, inside, rfl, written⟩

/-- When nobody is left, the page is written. -/
theorem Writing.end (writing : Writing sourceId entity snapshotAt records [] [] done writes) :
    PageWritten sourceId entity snapshotAt records writes where
  entries := writing.entries
  vertices := by
    refine writing.vertices.trans ?_
    exact (writing.assigned.map (recordVertex sourceId entity snapshotAt))
  relations := by
    refine writing.relations.trans ?_
    unfold pageRelations
    split_ifs
    · exact writing.assigned.map (ownerRelation sourceId entity snapshotAt)
    · exact .refl _
  ordered := writing.ordered

end

/-! ## The turns of the scheduler -/

section

variable {w : SyncWorker} {sourceId : String} {entity : EntityType} {snapshotAt : Time}
  {runId : String} {sound : Prop} {P : String × String → DeviceSyncCursor → Prop}
  {trace : List Landmark} {records : List EntityRecord} {pool : Pool} {ε α : Type}
  {world : World syncService}

theorem ended_handler {V : Service} {c : Call V} {m : Move V} {world : World V}
    (ended : world.cause.isSome = true) : (handler c m world).2.cause.isSome = true := by
  obtain ⟨cause, ended⟩ := Option.isSome_iff_exists.mp ended
  have kept : (handler c m world).2.cause = some cause := cause_disturbed ended m.disturbances
  rw [kept]
  rfl

/-- The context of a worker that has ended has ended for good. -/
theorem ensures_cause {p : SyncProg ε α} (ended : world.cause.isSome = true) :
    Prog.Ensures handler p (fun _ world' => world'.cause.isSome = true) world := by
  have any : p.Only fun _ => True := by
    induction p with
    | call c k ih => exact ⟨trivial, ih⟩
    | _ => trivial
  exact Prog.ensures_of_only any (fun _ _ _ _ => ended_handler) ended

theorem ensures_failed (failed : pool.failed = true) (turn : PoolTurn) :
    Prog.Ensures handler (takeTurn w sourceId entity snapshotAt pool turn : SyncProg ε Pool)
      (fun pool' _ => pool'.failed = true) world := by
  cases turn with
  | launch =>
      simp only [takeTurn, launchWrite]
      split
      · exact Prog.contract_ret failed
      · split_ifs
        · exact Prog.contract_perform fun _ _ _ _ => Prog.contract_ret failed
        · exact Prog.contract_ret failed
  | cut =>
      refine Prog.contract_perform fun _ done _ _ => ?_
      split_ifs <;> exact Prog.contract_ret failed
  | finish index =>
      simp only [takeTurn]
      split
      · exact Prog.contract_ret failed
      · rename_i stage _
        cases stage with
        | vertex =>
            refine Prog.contract_perform fun _ written _ _ => ?_
            split_ifs
            · exact Prog.contract_ret rfl
            · exact Prog.contract_perform fun _ _ _ _ => Prog.contract_ret failed
            · exact Prog.contract_ret failed
        | relation =>
            refine Prog.contract_perform fun _ written _ _ => Prog.contract_ret ?_
            simp [failed]

variable (sourceId entity snapshotAt runId sound P trace records)

/-- A write has failed, the context has ended, or the writes so far are those of the pool. -/
def PoolTrail (pool : Pool) (world : World syncService) : Prop :=
  pool.failed = true ∨ world.cause.isSome = true ∨ ∃ done writes,
    Writing sourceId entity snapshotAt records pool.waiting pool.running done writes ∧
      Trail runId sound P (trace ++ writes) world

variable {sourceId entity snapshotAt runId sound P trace records}

theorem poolTrail_finishWrite {index : Nat} {r : EntityRecord} {stage : WriteStage}
    {done : List EntityRecord} {writes : List Landmark}
    (here : pool.running[index]? = some (r, stage))
    (writing : Writing sourceId entity snapshotAt records pool.waiting pool.running done writes)
    (trail : Trail runId sound P (trace ++ writes) world) :
    Prog.Ensures handler
      (finishWrite sourceId entity snapshotAt pool index r stage : SyncProg ε Pool)
      (PoolTrail sourceId entity snapshotAt runId sound P trace records) world := by
  have writing := writing.perm (perm_of_getElem? here)
  cases stage with
  | vertex =>
      refine Prog.contract_perform fun m written _ answered => ?_
      have trail := trail.call (fun _ shape => by cases shape) answered
      cases written with
      | false => exact Prog.contract_ret (Or.inl rfl)
      | true =>
          rw [List.append_assoc] at trail
          rw [if_neg (by simp)]
          split_ifs with ports
          · refine Prog.contract_perform fun m _ _ _ => Prog.contract_ret ?_
            refine Or.inr (Or.inr ⟨done, _, ?_, trail.idle rfl⟩)
            exact (writing.port ports).perm (set_perm_of_getElem? here _).symm
          · exact Prog.contract_ret (Or.inr (Or.inr ⟨_, _, writing.finished ports, trail⟩))
  | relation =>
      refine Prog.contract_perform fun m written _ answered => Prog.contract_ret ?_
      have trail := trail.call (fun _ shape => by cases shape) answered
      cases written with
      | false => exact Or.inl (by simp)
      | true =>
          rw [List.append_assoc] at trail
          exact Or.inr (Or.inr ⟨_, _, writing.related, trail⟩)

theorem poolTrail_takeTurn {done : List EntityRecord} {writes : List Landmark} (turn : PoolTurn)
    (writing : Writing sourceId entity snapshotAt records pool.waiting pool.running done writes)
    (trail : Trail runId sound P (trace ++ writes) world) :
    Prog.Ensures handler (takeTurn w sourceId entity snapshotAt pool turn : SyncProg ε Pool)
      (PoolTrail sourceId entity snapshotAt runId sound P trace records) world := by
  cases turn with
  | launch =>
      simp only [takeTurn, launchWrite]
      split
      · exact Prog.contract_ret (Or.inr (Or.inr ⟨done, writes, writing, trail⟩))
      · rename_i r waiting shape
        split_ifs
        · refine Prog.contract_perform fun m _ _ answered => Prog.contract_ret ?_
          have trail := trail.call (fun _ shape => by cases shape) answered
          rw [List.append_assoc] at trail
          rw [shape] at writing
          exact Or.inr (Or.inr ⟨done, _, writing.launched, trail⟩)
        · exact Prog.contract_ret (Or.inr (Or.inr ⟨done, writes, writing, trail⟩))
  | cut =>
      refine Prog.contract_perform fun m ended _ answered => ?_
      have trail := trail.idle (c := .contextErr) (m := m) rfl
      have known := respond_of_handler answered
      split_ifs with cut
      · -- The launch loop ends early only where the page fails.
        refine Prog.contract_ret ?_
        rcases Bool.or_eq_true_iff.mp cut with failed | over_
        · exact Or.inl failed
        · exact Or.inr (Or.inl (known.trans over_))
      · exact Prog.contract_ret (Or.inr (Or.inr ⟨done, writes, writing, trail⟩))
  | finish index =>
      simp only [takeTurn]
      split
      · exact Prog.contract_ret (Or.inr (Or.inr ⟨done, writes, writing, trail⟩))
      · rename_i here
        exact poolTrail_finishWrite here writing trail

/-- The result of the pool: whether a write has failed. -/
theorem poolTrail_loop (n : Nat) (trail : Trail runId sound P trace world) :
    Prog.Ensures handler (Prog.loop (poolTurn w sourceId entity snapshotAt) n
        ⟨records, [], false⟩ : SyncProg ε Bool)
      (fun failed world' => failed = true ∨ world'.cause.isSome = true ∨
        ∃ writes, PageWritten sourceId entity snapshotAt records writes ∧
          Trail runId sound P (trace ++ writes) world') world := by
  refine Prog.contract_loop (PoolTrail sourceId entity snapshotAt runId sound P trace records)
    (fun pool world held => ?_) n _ ?_
  · unfold poolTurn
    split_ifs with idle
    · refine Prog.contract_ret ?_
      rcases held with failed | ended | ⟨done, writes, writing, trail⟩
      · exact Or.inl failed
      · exact Or.inr (Or.inl ended)
      · rw [idle.1, idle.2] at writing
        exact Or.inr (Or.inr ⟨writes, writing.end, trail⟩)
    · refine Prog.contract_perform fun m turn _ _ => Prog.contract_bind ?_
      rcases held with failed | ended | ⟨done, writes, writing, trail⟩
      · exact Prog.contract_mono (ensures_failed failed turn) fun _ _ failed =>
          Prog.contract_ret (Or.inl failed)
      · exact Prog.contract_mono (ensures_cause (ended_handler ended)) fun _ _ ended =>
          Prog.contract_ret (Or.inr (Or.inl ended))
      · exact Prog.contract_mono (poolTrail_takeTurn turn writing (trail.idle rfl))
          fun _ _ held => Prog.contract_ret held
  · exact Or.inr (Or.inr ⟨[], [], Writing.start records, by rwa [List.append_nil]⟩)

/-- **A page that was written is written completely.** -/
theorem trail_writeEntityPage (trail : Trail runId sound P trace world) :
    Prog.Ensures handler
      (writeEntityPage w sourceId entity snapshotAt records : SyncProg ε (Except WriteError Unit))
      (fun result world' => result = .ok () →
        ∃ writes, PageWritten sourceId entity snapshotAt records writes ∧
          Trail runId sound P (trace ++ writes) world') world := by
  refine Prog.contract_bind (Prog.contract_mono (poolTrail_loop _ trail) fun failed world ended => ?_)
  refine Prog.contract_bind (Prog.contract_perform fun m cause _ _ => Prog.contract_ret ?_)
  have ended : failed = true ∨ (handler .contextCause m world).2.cause.isSome = true ∨
      ∃ writes, PageWritten sourceId entity snapshotAt records writes ∧
        Trail runId sound P (trace ++ writes) (handler .contextCause m world).2 := by
    rcases ended with failed | over_ | ⟨writes, written, trail⟩
    · exact Or.inl failed
    · exact Or.inr (Or.inl (ended_handler over_))
    · exact Or.inr (Or.inr ⟨writes, written, trail.idle rfl⟩)
  by_cases lost : decide (cause = some Cause.leaseLost) = true
  · rw [if_pos lost]
    exact Prog.contract_ret nofun
  · rw [if_neg lost]
    refine Prog.contract_perform fun m over_ _ answered => ?_
    have known := respond_of_handler answered
    split_ifs with over_ failed
    · exact Prog.contract_ret nofun
    · exact Prog.contract_ret nofun
    · refine Prog.contract_ret fun _ => ?_
      rcases ended with failed' | over' | ⟨writes, written, trail⟩
      · exact (failed failed').elim
      · obtain ⟨cause, over'⟩ := Option.isSome_iff_exists.mp over'
        have kept := cause_disturbed over' m.disturbances
        simp only [World.respond, kept, Option.isSome_some] at known
        exact (over_ known.symm).elim
      · exact ⟨writes, written, trail.idle rfl⟩

end

end UnifiedInfraTopology
