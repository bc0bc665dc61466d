import UnifiedInfraTopology.Lib.Projection
import UnifiedInfraTopology.Graph.CleanupRace
import UnifiedInfraTopology.Worker.Publication
import UnifiedInfraTopology.Worker.Writers

/-!
# The goroutines of a page are waited for

`outstanding` are the writes of the graph that were called and have not returned.  While a page is
written they are those of the running goroutines; `writeEntityPage` returns when there are none left,
also where a write has failed or the context has ended.

`executeClaimed_joined`: everything that `executeClaimed` does besides writing a page, it does with no
write outstanding, and so it ends.
-/

namespace UnifiedInfraTopology

open Lib

/-! ## Outstanding writes -/

deriving instance DecidableEq for TopologyWrite

/-- The outstanding writes after a call or a return. -/
def outstandingAfter (pending : List TopologyWrite) : WriteEvent → List TopologyWrite
  | .startVertex v => pending ++ [.vertex v]
  | .vertex v _ => pending.erase (.vertex v)
  | .startRelation r => pending ++ [.relation r]
  | .relation r _ => pending.erase (.relation r)

/-- The writes that were called and have not returned. -/
def outstanding (writes : List WriteEvent) : List TopologyWrite := writes.foldl outstandingAfter []

theorem outstanding_concat (writes : List WriteEvent) (e : WriteEvent) :
    outstanding (writes ++ [e]) = outstandingAfter (outstanding writes) e := by
  rw [outstanding, List.foldl_append]
  rfl

/-- What a write adds, once it is called or has returned. -/
theorem outstanding_handler {c : Call syncService} {m : Move syncService} {w : World syncService}
    {e : WriteEvent} (event : Event.write? (.call c m.now m.fault (handler c m w).1
      (w.disturbed m.disturbances).store (handler c m w).2.store) = some e) :
    outstanding (handler c m w).2.writes = outstandingAfter (outstanding w.writes) e := by
  rw [writes_handler, event]
  exact outstanding_concat _ _

theorem outstanding_startVertex (v : TopologyVertex) (m : Move syncService)
    (w : World syncService) :
    outstanding (handler (.service (SyncRequest.startVertex v)) m w).2.writes =
      outstanding w.writes ++ [.vertex v] :=
  outstanding_handler (show _ = some (WriteEvent.startVertex v) from rfl)

theorem outstanding_startRelation (r : Relation) (m : Move syncService) (w : World syncService) :
    outstanding (handler (.service (SyncRequest.startRelation r)) m w).2.writes =
      outstanding w.writes ++ [.relation r] :=
  outstanding_handler (show _ = some (WriteEvent.startRelation r) from rfl)

theorem outstanding_silent {c : Call syncService} (silent : c.writes = false)
    (m : Move syncService) (w : World syncService) :
    outstanding (handler c m w).2.writes = outstanding w.writes := by
  rw [writes_silent silent]

theorem write?_background {e : Event syncService} (background : e.isCall = false) :
    e.write? = none := by
  cases e with
  | call => cases background
  | _ => rfl

/-- The call is one of `writeEntityPage` while goroutines run. -/
def Call.pooled : Call syncService → Bool
  | .contextErr | .service .schedule => true
  | c => c.writes

/-- No write is outstanding. -/
def Joined (w : World syncService) : Prop := outstanding w.writes = []

/-- Only the pool calls while writes are outstanding. -/
def CallsJoined (c : Call syncService) (w : World syncService) : Prop := c.pooled = true ∨ Joined w

/-- The program calls so, and leaves no write outstanding. -/
abbrev Joins {ε α : Type} (p : SyncProg ε α) (w : World syncService) : Prop :=
  Prog.Keeps handler CallsJoined Joined p w

/-! ## The pool -/

section

variable {worker : SyncWorker} {sourceId : String} {entity : EntityType} {snapshotAt : Time}
  {pool : Pool} {w : World syncService} {ε : Type} {exit : ε → World syncService → Prop}

variable (sourceId entity snapshotAt) in
/-- The write that a goroutine waits for. -/
def runningWrite : EntityRecord × WriteStage → TopologyWrite
  | (record, .vertex) => .vertex (recordVertex sourceId entity snapshotAt record)
  | (record, .relation) => .relation (ownerRelation sourceId entity snapshotAt record)

variable (sourceId entity snapshotAt) in
/-- The outstanding writes are those of the goroutines. -/
def Running (pool : Pool) (w : World syncService) : Prop :=
  (outstanding w.writes).Perm (pool.running.map (runningWrite sourceId entity snapshotAt))

theorem Running.other {c : Call syncService} (running : Running sourceId entity snapshotAt pool w)
    (other : c.writes = false) (m : Move syncService) :
    Running sourceId entity snapshotAt pool (handler c m w).2 := by
  rwa [Running, outstanding_silent other]

/-- A write is called. -/
theorem Running.called {c : Call syncService} {running : List (EntityRecord × WriteStage)}
    {write : TopologyWrite} {x : EntityRecord × WriteStage} {m : Move syncService}
    (before : (outstanding w.writes).Perm (running.map (runningWrite sourceId entity snapshotAt)))
    (own : write = runningWrite sourceId entity snapshotAt x)
    (called : outstanding (handler c m w).2.writes = outstanding w.writes ++ [write]) :
    (outstanding (handler c m w).2.writes).Perm
      ((running ++ [x]).map (runningWrite sourceId entity snapshotAt)) := by
  rw [called, List.map_append, List.map_singleton, own]
  exact before.append_right _

/-- A write of a goroutine returns. -/
theorem Running.returned {c : Call syncService} {index : Nat} {task : EntityRecord × WriteStage}
    {write : TopologyWrite} {m : Move syncService}
    (running : Running sourceId entity snapshotAt pool w) (here : pool.running[index]? = some task)
    (own : write = runningWrite sourceId entity snapshotAt task)
    (returned : outstanding (handler c m w).2.writes = (outstanding w.writes).erase write) :
    (outstanding (handler c m w).2.writes).Perm
      ((pool.running.eraseIdx index).map (runningWrite sourceId entity snapshotAt)) := by
  have rest := (perm_of_getElem? here).map (runningWrite sourceId entity snapshotAt)
  have erased := (List.Perm.trans running rest).erase write
  rw [List.map_cons, ← own, List.erase_cons_head] at erased
  rw [returned]
  exact erased

theorem running_finishWrite {index : Nat} {record : EntityRecord} {stage : WriteStage}
    (running : Running sourceId entity snapshotAt pool w)
    (here : pool.running[index]? = some (record, stage)) :
    Prog.Contract handler (fun _ => True) exit
      (finishWrite sourceId entity snapshotAt pool index record stage : SyncProg ε Pool)
      (Running sourceId entity snapshotAt) w := by
  cases stage with
  | vertex =>
      refine Prog.contract_perform fun m written _ answered => ?_
      have returned := running.returned here rfl (outstanding_handler (by rw [answered]; rfl))
      split_ifs
      · exact Prog.contract_ret returned
      · refine Prog.contract_perform fun m _ _ answered => Prog.contract_ret ?_
        have called := Running.called (x := (record, .relation)) returned rfl
          (outstanding_startRelation _ m _)
        refine called.trans (List.Perm.map _ ?_)
        exact (List.perm_append_singleton _ _).trans (set_perm_of_getElem? here _).symm
      · exact Prog.contract_ret returned
  | relation =>
      refine Prog.contract_perform fun m written _ answered => Prog.contract_ret ?_
      exact running.returned here rfl (outstanding_handler (by rw [answered]; rfl))

theorem running_takeTurn (running : Running sourceId entity snapshotAt pool w) (turn : PoolTurn) :
    Prog.Contract handler (fun _ => True) exit
      (takeTurn worker sourceId entity snapshotAt pool turn : SyncProg ε Pool)
      (Running sourceId entity snapshotAt) w := by
  cases turn with
  | launch =>
      simp only [takeTurn, launchWrite]
      split
      · exact Prog.contract_ret running
      · rename_i record waiting _
        split_ifs
        · refine Prog.contract_perform fun m _ _ answered => Prog.contract_ret ?_
          exact Running.called (x := (record, .vertex)) running rfl (outstanding_startVertex _ m _)
        · exact Prog.contract_ret running
  | cut =>
      refine Prog.contract_perform fun m done _ _ => ?_
      have running := running.other (c := .contextErr) rfl m
      split_ifs <;> exact Prog.contract_ret running
  | finish index =>
      simp only [takeTurn]
      split
      · exact Prog.contract_ret running
      · rename_i record stage here
        exact running_finishWrite running here

/-- Every call of a turn is one of the pool. -/
theorem pooled_takeTurn (turn : PoolTurn) :
    (takeTurn worker sourceId entity snapshotAt pool turn : SyncProg ε Pool).Only
      fun c => c.pooled = true := by
  cases turn with
  | launch =>
      simp only [takeTurn, launchWrite]
      split
      · trivial
      · split_ifs
        · exact ⟨rfl, fun _ => trivial⟩
        · trivial
  | cut =>
      refine ⟨rfl, fun done => ?_⟩
      dsimp only [Prog.bind]
      split_ifs <;> trivial
  | finish index =>
      simp only [takeTurn]
      split
      · trivial
      · rename_i record stage here
        cases stage with
        | vertex =>
            refine ⟨rfl, fun written => ?_⟩
            dsimp only [Prog.bind]
            split_ifs
            · trivial
            · exact ⟨rfl, fun _ => trivial⟩
            · trivial
        | relation => exact ⟨rfl, fun _ => trivial⟩

/-- The pool ends when no goroutine runs. -/
theorem joins_pool (n : Nat) (records : List EntityRecord) (here : Joined w) :
    Joins (Prog.loop (poolTurn worker sourceId entity snapshotAt) n ⟨records, [], false⟩ :
      SyncProg ε Bool) w := by
  constructor
  · refine Prog.issues_of_only (P := fun c => c.pooled = true) (Prog.only_loop (fun pool => ?_) _ _)
      fun _ _ pooled => Or.inl pooled
    unfold poolTurn
    split_ifs
    · trivial
    · exact Prog.only_bind ⟨rfl, fun _ => trivial⟩ fun turn =>
        Prog.only_bind (pooled_takeTurn turn) fun _ => trivial
  · refine Prog.contract_loop (Running sourceId entity snapshotAt) (fun pool w running => ?_) n _ ?_
    · unfold poolTurn
      split_ifs with over_
      · refine Prog.contract_ret ?_
        rw [Running, over_.2] at running
        exact running.eq_nil
      · refine Prog.contract_perform fun m turn _ _ => Prog.contract_bind ?_
        have running := running.other (c := .service .schedule) rfl m
        exact Prog.contract_mono (running_takeTurn running turn) fun _ _ held => Prog.contract_ret held
    · rw [Running, here]
      exact .refl _

end

/-! ## The other parts -/

section

variable {ε α : Type} {p : SyncProg ε α} {w : World syncService}

/-- A program that writes nothing. -/
theorem joins_of_only (calls : p.Only fun c => c.writes = false) (here : Joined w) : Joins p w :=
  Prog.keeps_of_only calls (fun _ _ _ joined => Or.inr joined)
    (fun _ m _ other joined => (outstanding_silent other m _).trans joined) here

theorem joins_of_offPage (off : OffPage p) (here : Joined w) : Joins p w := by
  refine joins_of_only (Prog.only_mono off fun c held => ?_) here
  cases c with
  | service r => cases r <;> first | rfl | cases held
  | _ => rfl

theorem joins_of_aside (aside : Aside p) (here : Joined w) : Joins p w :=
  joins_of_offPage (offPage_of_aside aside) here

theorem joins_of_routine (routine : Routine p) (here : Joined w) : Joins p w :=
  joins_of_aside (aside_of_routine routine) here

end

section

variable {worker : SyncWorker} {run : SyncRun} {source : Source} {startedAt snapshotAt : Time}
  {selection : Selection} {w : World syncService} {ε : Type}

theorem joins_writeEntityPage {sourceId : String} {entity : EntityType} (records : List EntityRecord)
    (here : Joined w) :
    Joins (writeEntityPage worker sourceId entity snapshotAt records :
      SyncProg ε (Except WriteError Unit)) w := by
  refine Prog.keeps_bind (joins_pool _ _ here) fun failed w' joined => ?_
  refine joins_of_only (Prog.only_bind ⟨rfl, fun _ => trivial⟩ fun lost => ?_) joined
  cases lost with
  | true => trivial
  | false =>
      refine ⟨rfl, fun done => ?_⟩
      dsimp only [Prog.bind]
      split_ifs <;> trivial

theorem joins_writePage (page : EntityPage) (here : Joined w) :
    Joins (writePage worker run source selection snapshotAt page) w := by
  refine Prog.keeps_bind (joins_writeEntityPage _ here) fun written w' joined => ?_
  match written with
  | .ok () => exact Prog.keeps_ret joined
  | .error .leaseLost => exact Prog.keeps_raise joined
  | .error .canceled => exact joins_of_routine (routine_leaveCanceled _ _) joined
  | .error .graphWrite => exact joins_of_routine (routine_leaveFailed _ _ _) joined

/-- Reading a page and looking up an owner write nothing. -/
theorem joins_readPage {pass : Pass} {entity : EntityType} {offset : Int} (here : Joined w) :
    Joins (readPage pass source entity offset : SyncProg ε (Option EntityPage)) w := by
  refine joins_of_only ?_ here
  unfold readPage collectEntityPage
  split_ifs
  · exact ⟨rfl, fun _ => trivial⟩
  · exact ⟨rfl, fun _ => trivial⟩
  · exact Prog.only_bind ⟨rfl, fun _ => trivial⟩ fun _ => trivial

theorem joins_checkOwners {state : Collected} {page : EntityPage} (here : Joined w) :
    Joins (checkOwners run source selection state page) w := by
  unfold checkOwners
  split_ifs
  · refine Prog.keeps_bind (joins_of_only ?_ here) fun owners w' joined =>
      joins_of_routine (routine_orFail _ _ _ _) joined
    cases page.records with
    | nil => trivial
    | cons first records =>
        unfold validateInterfaceOwners
        dsimp only
        split_ifs
        · trivial
        · trivial
        · trivial
        · trivial
        · refine Prog.only_bind ⟨rfl, fun _ => trivial⟩ fun found => ?_
          split_ifs <;> trivial
  · exact Prog.keeps_ret here

theorem joins_collectPage {state : Collected} (here : Joined w) :
    Joins (collectPage worker run source startedAt selection snapshotAt state) w := by
  refine Prog.keeps_bind (joins_of_routine (routine_leaveIfCanceled _ _ _) here) fun _ w joined => ?_
  refine Prog.keeps_bind (joins_readPage joined) fun read w joined => ?_
  refine Prog.keeps_bind (joins_of_routine (routine_orFail _ _ _ _) joined) fun page w joined => ?_
  refine Prog.keeps_bind ?_ fun accepted w joined => ?_
  · unfold acceptPage
    split
    · exact Prog.keeps_ret joined
    · exact joins_of_routine (routine_leaveFailed _ _ _) joined
  · refine Prog.keeps_bind (joins_checkOwners joined) fun owners w joined => ?_
    refine Prog.keeps_bind (joins_writePage page joined) fun _ w joined => ?_
    refine Prog.keeps_bind (joins_of_aside (aside_storeCursor _ _ _ _ _ _ _ _) joined)
      fun cursor w joined => ?_
    exact Prog.keeps_ret joined

theorem joins_prepare (here : Joined w) : Joins (prepare worker run source startedAt) w := by
  have moves {origin target : SyncRunStatus} {w : World syncService} (unfinished : target ≠ .succeeded)
      (joined : Joined w) : Joins (moveRun run.id origin target) w :=
    joins_of_routine (routine_moveRun _ _ unfinished) joined
  refine Prog.keeps_bind (joins_of_aside (aside_selectEntity _ _ _) here) fun selection w joined => ?_
  refine Prog.keeps_bind (joins_of_aside (aside_beginCollection _ _ _ _) joined)
    fun cursor w joined => ?_
  refine Prog.keeps_bind (Prog.keeps_loop (fun state w joined => joins_collectPage joined) _ _ joined)
    fun state w joined => ?_
  refine Prog.keeps_bind (joins_of_routine (routine_leaveIfCanceled _ _ _) joined)
    fun _ w joined => ?_
  refine Prog.keeps_bind (moves nofun joined) fun _ w joined => ?_
  refine Prog.keeps_bind (joins_of_aside (aside_validateCollected _ _ _ _ _) joined)
    fun _ w joined => ?_
  refine Prog.keeps_bind (joins_of_routine (routine_leaveIfCanceled _ _ _) joined)
    fun _ w joined => ?_
  exact Prog.keeps_bind (moves nofun joined) fun _ w joined => Prog.keeps_ret joined

theorem joins_executeClaimed (here : Joined w) :
    Joins (executeClaimed worker run source startedAt) w :=
  Prog.keeps_bind (joins_prepare here) fun _ _ joined =>
    joins_of_offPage (offPage_of_closing (closing_publish _ _ _ _)) joined

end

/-! ## Executions -/

/-- Only the pool has called while writes were outstanding. -/
def CalledJoined (past : List (Event syncService)) : Event syncService → Prop
  | .call c _ _ _ _ _ => c.pooled = true ∨ outstanding (past.filterMap Event.write?) = []
  | _ => True

/-- **Goroutines are waited for.**  In every execution of `executeClaimed`, whatever answers its calls
and wherever it is stopped: every operation on the control store, every page that is read, every owner
that is looked up and every cleanup finds all writes of the graph that were called returned, and so
does the end. -/
theorem executeClaimed_joined (worker : SyncWorker) (run : SyncRun) (source : Source)
    (startedAt : Time) (script : List (Move syncService)) (start : World syncService)
    (fresh : start.log = []) :
    Throughout CalledJoined []
        ((executeClaimed worker run source startedAt).run handler script start).2.1.log ∧
      (((executeClaimed worker run source startedAt).run handler script start).1 ≠ .pending →
        outstanding ((executeClaimed worker run source startedAt).run handler script
          start).2.1.writes = []) := by
  have joined : Joined start := by
    rw [Joined, World.writes, fresh]
    rfl
  have joins : Joins (executeClaimed worker run source startedAt) start :=
    joins_executeClaimed joined
  constructor
  · refine Prog.issues_run (K := fun w => Throughout CalledJoined [] w.log) (fun c m w may sofar => ?_)
      joins.issues (by rw [fresh]; exact throughout_nil) script
    obtain ⟨before, grown, background⟩ := log_disturbed w m.disturbances
    rw [log_handler, grown]
    refine throughout_concat.mpr ⟨throughout_append.mpr ⟨sofar, ?_⟩, ?_⟩
    · refine throughout_of_forall fun e member past => ?_
      have silent := background e member
      cases e with
      | call => cases silent
      | _ => trivial
    · refine may.imp_right fun joined => ?_
      have unseen : before.filterMap Event.write? = [] :=
        List.filterMap_eq_nil_iff.mpr fun e member => write?_background (background e member)
      rw [List.nil_append, List.filterMap_append, unseen, List.append_nil]
      exact joined
  · have post := Prog.contract_run (Prog.shrinking_true handler) joins.ends script trivial
    intro ended
    cases outcome : ((executeClaimed worker run source startedAt).run handler script start).1 with
    | ok a => exact post.1 a outcome
    | error e => exact post.2 e outcome
    | pending => exact (ended outcome).elim

/-- The write of the device is waited for. -/
theorem executeClaimed_joined_device :
    Throughout CalledJoined [] executeDeviceRun.2.1.log ∧
      outstanding executeDeviceRun.2.1.writes = [] := by
  have returned : executeDeviceRun.1 ≠ .pending := by decide +kernel
  unfold executeDeviceRun at returned ⊢
  obtain ⟨calls, ends⟩ := executeClaimed_joined ⟨1, 3⟩ (Store.claimed 2000 (queuedRun "r" "s"))
    ⟨"s", "lab", "cmdb", "ref", true⟩ 2000 deviceScript claimedWorld rfl
  exact ⟨calls, ends returned⟩

end UnifiedInfraTopology
