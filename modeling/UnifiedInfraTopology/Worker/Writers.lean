import UnifiedInfraTopology.Lib.Parties
import UnifiedInfraTopology.Worker.PagePool

/-!
# The goroutines of a page

`writeEntityPage` starts one goroutine for each record until it has started all of them or the context
of the page is done.  A goroutine writes the vertex of its record and, for an interface, the relation
from its owner.  `WriterState` is how far a goroutine has got, and `WriterState.history` the calls and
returns that it has made by then.

* `writeEntityPage_writes`: wherever an execution has got, its writes are the histories of one
  goroutine for each record, in some order; when `writeEntityPage` has returned every goroutine has
  ended, and when it returns nil every one has written its record.
-/

namespace UnifiedInfraTopology

open Lib

/-! ## Writes -/

/-- A write is started, or returns. -/
inductive WriteEvent where
  | startVertex (vertex : TopologyVertex)
  | vertex (vertex : TopologyVertex) (written : Bool)
  | startRelation (relation : Relation)
  | relation (relation : Relation) (written : Bool)
deriving DecidableEq

/-- A write is started when it is called, whether or not the call goes on. -/
def Event.write? : Event syncService → Option WriteEvent
  | .call (.service (.startVertex v)) _ _ _ _ _ => some (.startVertex v)
  | .call (.service (.upsertVertex v)) _ _ (some written) _ _ => some (.vertex v written)
  | .call (.service (.startRelation r)) _ _ _ _ _ => some (.startRelation r)
  | .call (.service (.upsertRelation r)) _ _ (some written) _ _ => some (.relation r written)
  | _ => none

def World.writes (w : World syncService) : List WriteEvent := w.log.filterMap Event.write?

/-- What a call adds to the writes. -/
theorem writes_handler (c : Call syncService) (m : Move syncService) (w : World syncService) :
    (handler c m w).2.writes = w.writes ++ (Event.write? (.call c m.now m.fault (handler c m w).1
      (w.disturbed m.disturbances).store (handler c m w).2.store)).toList := by
  refine filterMap_handler (fun e background => ?_) c m w
  cases e with
  | call => cases background
  | _ => rfl

/-- The call is not a write. -/
def Call.writes : Call syncService → Bool
  | .service (.startVertex _) | .service (.upsertVertex _) => true
  | .service (.startRelation _) | .service (.upsertRelation _) => true
  | _ => false

theorem writes_silent {c : Call syncService} (silent : c.writes = false) (m : Move syncService)
    (w : World syncService) : (handler c m w).2.writes = w.writes := by
  rw [writes_handler]
  have none_ (time : Time) (fault : Fault) (answer : Option c.Answer) (before after : Store) :
      Event.write? (.call c time fault answer before after) = none := by
    cases c with
    | service r => cases r <;> first | rfl | cases silent
    | _ => rfl
  rw [none_, Option.toList_none, List.append_nil]

/-! ## Goroutines -/

/-- How far the goroutine of a record has got; `idle` if it was not started. -/
inductive WriterState where
  | idle
  | writingVertex
  | vertexFailed
  | vertexWritten
  | writingRelation
  | relationFailed
  | relationWritten
deriving DecidableEq

namespace WriterState

/-- What the goroutine has done. -/
def history (vertex : TopologyVertex) (relation : Relation) : WriterState → List WriteEvent
  | idle => []
  | writingVertex => [.startVertex vertex]
  | vertexFailed => [.startVertex vertex, .vertex vertex false]
  | vertexWritten => [.startVertex vertex, .vertex vertex true]
  | writingRelation => [.startVertex vertex, .vertex vertex true, .startRelation relation]
  | relationFailed => [.startVertex vertex, .vertex vertex true, .startRelation relation,
      .relation relation false]
  | relationWritten => [.startVertex vertex, .vertex vertex true, .startRelation relation,
      .relation relation true]

/-- The write that the goroutine waits for. -/
def stage? : WriterState → Option WriteStage
  | writingVertex => some .vertex
  | writingRelation => some .relation
  | _ => none

def failed : WriterState → Bool
  | vertexFailed | relationFailed => true
  | _ => false

/-- Where the goroutine of a record ends that nothing has failed for. -/
def written (entity : EntityType) : WriterState :=
  if entity = .interface then relationWritten else vertexWritten

/-- Between two turns of the scheduler, a written interface has its relation started, and only
interfaces have relations. -/
def fits (entity : EntityType) : WriterState → Prop
  | vertexWritten => entity ≠ .interface
  | writingRelation | relationFailed | relationWritten => entity = .interface
  | _ => True

/-- The goroutine is not running: it was not started, a write has failed, or all is written. -/
def Ended (entity : EntityType) (s : WriterState) : Prop :=
  s = idle ∨ s = vertexFailed ∨ s = relationFailed ∨ s = written entity

theorem ended_of_stage? {entity : EntityType} {s : WriterState} (fits : s.fits entity)
    (free : s.stage? = none) : s.Ended entity := by
  cases s with
  | idle => exact .inl rfl
  | vertexFailed => exact .inr (.inl rfl)
  | relationFailed => exact .inr (.inr (.inl rfl))
  | vertexWritten => exact .inr (.inr (.inr (if_neg fits).symm))
  | relationWritten => exact .inr (.inr (.inr (if_pos fits).symm))
  | writingVertex => cases free
  | writingRelation => cases free

end WriterState

section Writers

variable (sourceId : String) (entity : EntityType) (snapshotAt : Time)
  (records : List EntityRecord) (before : List WriteEvent)

/-- The call of `UpsertVertex` for a record. -/
abbrev vertexCall (r : EntityRecord) : Call syncService :=
  .service (.upsertVertex (recordVertex sourceId entity snapshotAt r))

/-- The call of `UpsertRelation` for a record. -/
abbrev relationCall (r : EntityRecord) : Call syncService :=
  .service (.upsertRelation (ownerRelation sourceId entity snapshotAt r))

/-- The history of the goroutine of the record with an index. -/
def recordHistory (states : Nat → WriterState) (i : Nat) : List WriteEvent :=
  records[i]?.elim [] fun r => (states i).history (recordVertex sourceId entity snapshotAt r)
    (ownerRelation sourceId entity snapshotAt r)

/-- What the goroutine of the record with an index is doing. -/
def recordTask (states : Nat → WriterState) (i : Nat) : Option (EntityRecord × WriteStage) :=
  records[i]?.bind fun r => (states i).stage?.map fun stage => (r, stage)

/-- The writes are those of the goroutines. -/
def Written (states : Nat → WriterState) (world : World syncService) : Prop :=
  ∃ events, world.writes = before ++ events ∧
    Shuffled (recordHistory sourceId entity snapshotAt records states) events

/-- The pool is where the goroutines are. -/
structure PoolWriters (states : Nat → WriterState) (pool : Pool) (world : World syncService) :
    Prop where
  written : Written sourceId entity snapshotAt records before states world
  occupied : Occupied (recordTask records states) pool.running
  fits : ∀ i, (states i).fits entity
  /-- The records are started in order, unless a failure or the end of the context cuts them off. -/
  started : ∃ k ≤ records.length, (∀ i, states i = .idle ↔ k ≤ i) ∧ (pool.waiting = records.drop k ∨
    pool.waiting = [] ∧ (pool.failed = true ∨ world.cause.isSome = true))
  sound : pool.failed = false → ∀ i, (states i).failed = false

end Writers

section

variable {w : SyncWorker} {sourceId : String} {entity : EntityType} {snapshotAt : Time}
  {records : List EntityRecord} {before : List WriteEvent} {states : Nat → WriterState}
  {pool : Pool} {world world' : World syncService} {i : Nat} {r : EntityRecord} {s : WriterState}
  {ε : Type}

/-! ## One event -/

theorem Written.silent (written : Written sourceId entity snapshotAt records before states world)
    (same : world'.writes = world.writes) :
    Written sourceId entity snapshotAt records before states world' := by
  obtain ⟨events, whole, shuffled⟩ := written
  exact ⟨events, same.trans whole, shuffled⟩

/-- A goroutine makes its next event. -/
theorem Written.event {e : WriteEvent} (at_ : records[i]? = some r)
    (written : Written sourceId entity snapshotAt records before states world)
    (grown : world'.writes = world.writes ++ [e])
    (next : s.history (recordVertex sourceId entity snapshotAt r)
        (ownerRelation sourceId entity snapshotAt r) =
      (states i).history (recordVertex sourceId entity snapshotAt r)
        (ownerRelation sourceId entity snapshotAt r) ++ [e]) :
    Written sourceId entity snapshotAt records before (Function.update states i s) world' := by
  obtain ⟨events, whole, shuffled⟩ := written
  refine ⟨events ++ [e], by rw [grown, whole, List.append_assoc], ?_⟩
  refine shuffled.concat (i := i) ?_ fun j apart => ?_
  · simpa [recordHistory, at_] using next
  · simp [recordHistory, Function.update_of_ne apart]

/-- `UpsertVertex` returns, or is still running. -/
theorem Written.upsertVertex (at_ : records[i]? = some r) (writing : states i = .writingVertex)
    (written : Written sourceId entity snapshotAt records before states world)
    (m : Move syncService) : ∃ states', Written sourceId entity snapshotAt records before states'
      (handler (vertexCall sourceId entity snapshotAt r) m world).2 ∧
      ∀ ok : Bool, (handler (vertexCall sourceId entity snapshotAt r) m world).1 = some ok →
        states' = Function.update states i (if ok then .vertexWritten else .vertexFailed) := by
  have grown := writes_handler (vertexCall sourceId entity snapshotAt r) m world
  rcases answered : (handler (vertexCall sourceId entity snapshotAt r) m world).1 with _ | ok
  · rw [answered] at grown
    exact ⟨states, written.silent (grown.trans (List.append_nil _)), nofun⟩
  · rw [answered] at grown
    refine ⟨Function.update states i (if ok then .vertexWritten else .vertexFailed),
      written.event at_ grown ?_, fun ok' same => by rw [Option.some.inj same]⟩
    rw [writing]
    cases ok <;> rfl

/-- `UpsertRelation` returns, or is still running. -/
theorem Written.upsertRelation (at_ : records[i]? = some r) (writing : states i = .writingRelation)
    (written : Written sourceId entity snapshotAt records before states world)
    (m : Move syncService) : ∃ states', Written sourceId entity snapshotAt records before states'
      (handler (relationCall sourceId entity snapshotAt r) m world).2 ∧
      ∀ ok : Bool, (handler (relationCall sourceId entity snapshotAt r) m world).1 = some ok →
        states' = Function.update states i (if ok then .relationWritten else .relationFailed) := by
  have grown := writes_handler (relationCall sourceId entity snapshotAt r) m world
  rcases answered : (handler (relationCall sourceId entity snapshotAt r) m world).1 with _ | ok
  · rw [answered] at grown
    exact ⟨states, written.silent (grown.trans (List.append_nil _)), nofun⟩
  · rw [answered] at grown
    refine ⟨Function.update states i (if ok then .relationWritten else .relationFailed),
      written.event at_ grown ?_, fun ok' same => by rw [Option.some.inj same]⟩
    rw [writing]
    cases ok <;> rfl

/-- A goroutine that is running goes on. -/
theorem PoolWriters.advance {pool' : Pool} (s : WriterState)
    (held : PoolWriters sourceId entity snapshotAt records before states pool world)
    (active : states i ≠ .idle) (moved : s ≠ .idle) (suits : s.fits entity)
    (written : Written sourceId entity snapshotAt records before (Function.update states i s) world')
    (occupied : Occupied (recordTask records (Function.update states i s)) pool'.running)
    (waiting : pool'.waiting = pool.waiting) (failed : pool.failed = true → pool'.failed = true)
    (sound : pool'.failed = false → s.failed = false)
    (ended : world.cause.isSome = true → world'.cause.isSome = true) :
    PoolWriters sourceId entity snapshotAt records before (Function.update states i s) pool'
      world' where
  written := written
  occupied := occupied
  fits j := by
    rcases eq_or_ne j i with rfl | apart
    · rwa [Function.update_self]
    · rw [Function.update_of_ne apart]
      exact held.fits j
  started := by
    obtain ⟨k, inside, idle, rest⟩ := held.started
    refine ⟨k, inside, fun j => ?_, ?_⟩
    · rcases eq_or_ne j i with rfl | apart
      · rw [Function.update_self]
        exact iff_of_false moved fun late => active ((idle j).mpr late)
      · rw [Function.update_of_ne apart]
        exact idle j
    · rw [waiting]
      exact rest.imp id (And.imp_right (Or.imp failed ended))
  sound fine j := by
    have fine' : pool.failed = false := Bool.eq_false_iff.mpr fun bad => by
      rw [failed bad] at fine
      cases fine
    rcases eq_or_ne j i with rfl | apart
    · rw [Function.update_self]
      exact sound fine
    · rw [Function.update_of_ne apart]
      exact held.sound fine' j

/-- A call that is not a write leaves the goroutines where they are. -/
theorem PoolWriters.silent {c : Call syncService} (quiet : c.writes = false) (m : Move syncService)
    (held : PoolWriters sourceId entity snapshotAt records before states pool world) :
    PoolWriters sourceId entity snapshotAt records before states pool (handler c m world).2 where
  written := held.written.silent (writes_silent quiet m world)
  occupied := held.occupied
  fits := held.fits
  started := by
    obtain ⟨k, inside, idle, rest⟩ := held.started
    exact ⟨k, inside, idle, rest.imp id (And.imp_right (Or.imp id ended_handler))⟩
  sound := held.sound

/-! ## The turns of the scheduler -/

variable (sourceId entity snapshotAt records before) in
/-- Wherever a turn stops, the writes are those of the goroutines; the pool is where they are when it
returns. -/
def TurnPost (o : Outcome ε Pool) (world : World syncService) : Prop :=
  ∃ states, match o with
    | .ok pool => PoolWriters sourceId entity snapshotAt records before states pool world
    | _ => Written sourceId entity snapshotAt records before states world

theorem writers_launchWrite
    (held : PoolWriters sourceId entity snapshotAt records before states pool world) :
    Prog.wp handler (fun _ => True)
      (launchWrite w sourceId entity snapshotAt pool : SyncProg ε Pool)
      (TurnPost sourceId entity snapshotAt records before) world := by
  unfold launchWrite
  split
  · exact ⟨states, held⟩
  · rename_i r waiting shape
    split_ifs
    · obtain ⟨k, inside, idle, rest⟩ := held.started
      have rest : r :: waiting = records.drop k := by
        rcases rest with rest | ⟨none_, -⟩
        · exact shape.symm.trans rest
        · rw [shape] at none_
          cases none_
      have at_ : records[k]? = some r := by
        rw [← List.head?_drop, ← rest, List.head?_cons]
      have later : waiting = records.drop (k + 1) := by
        rw [← List.tail_drop, ← rest, List.tail_cons]
      have unstarted : states k = .idle := (idle k).mpr le_rfl
      have started (m : Move syncService) : Written sourceId entity snapshotAt records before
          (Function.update states k .writingVertex)
          (handler (.service (.startVertex (recordVertex sourceId entity snapshotAt r)) :
            Call syncService) m world).2 :=
        held.written.event at_ (writes_handler _ m world) (by rw [unstarted]; rfl)
      refine Prog.wp_perform ⟨states, held.written⟩ (fun m _ => ⟨_, started m⟩) fun m _ _ _ => ?_
      refine ⟨_, started m, ?_, fun j => ?_, ⟨k + 1, ?_, fun j => ?_, Or.inl later⟩, fun fine j => ?_⟩
      · refine held.occupied.start (i := k) ?_ ?_ fun j apart => ?_
        · simp [recordTask, unstarted, WriterState.stage?]
        · simp [recordTask, at_, WriterState.stage?]
        · simp [recordTask, Function.update_of_ne apart]
      · rcases eq_or_ne j k with rfl | apart
        · rw [Function.update_self]
          trivial
        · rw [Function.update_of_ne apart]
          exact held.fits j
      · exact (List.getElem?_eq_some_iff.mp at_).1
      · rcases eq_or_ne j k with rfl | apart
        · rw [Function.update_self]
          exact iff_of_false nofun (Nat.not_succ_le_self j)
        · rw [Function.update_of_ne apart, idle j]
          exact ⟨fun late => Nat.lt_of_le_of_ne late apart.symm, Nat.le_of_succ_le⟩
      · rcases eq_or_ne j k with rfl | apart
        · rw [Function.update_self]
          rfl
        · rw [Function.update_of_ne apart]
          exact held.sound fine j
    · exact ⟨states, held⟩

theorem writers_cutLaunch
    (held : PoolWriters sourceId entity snapshotAt records before states pool world) :
    Prog.wp handler (fun _ => True) (cutLaunch pool : SyncProg ε Pool)
      (TurnPost sourceId entity snapshotAt records before) world := by
  refine Prog.wp_perform ⟨states, held.written⟩ (fun m _ => ⟨states, (held.silent rfl m).written⟩)
    fun m ended _ answered => ?_
  have known := respond_of_handler answered
  have held := held.silent (c := .contextErr) rfl m
  split_ifs with over_
  · obtain ⟨k, inside, idle, -⟩ := held.started
    have why : pool.failed = true ∨ (handler .contextErr m world).2.cause.isSome = true :=
      (Bool.or_eq_true_iff.mp over_).imp id known.trans
    exact ⟨states, held.written, held.occupied, held.fits, ⟨k, inside, idle, Or.inr ⟨rfl, why⟩⟩,
      held.sound⟩
  · exact ⟨states, held⟩

theorem writers_finishWrite {index : Nat} {stage : WriteStage}
    (here : pool.running[index]? = some (r, stage))
    (held : PoolWriters sourceId entity snapshotAt records before states pool world) :
    Prog.wp handler (fun _ => True)
      (finishWrite sourceId entity snapshotAt pool index r stage : SyncProg ε Pool)
      (TurnPost sourceId entity snapshotAt records before) world := by
  obtain ⟨i, doing, finish, change⟩ := held.occupied.party here
  obtain ⟨r', at_, task⟩ := Option.bind_eq_some_iff.mp doing
  obtain ⟨stage', running, same⟩ := Option.map_eq_some_iff.mp task
  cases same
  have active : states i ≠ .idle := by
    intro unstarted
    rw [unstarted] at running
    cases running
  have others (s : WriterState) : ∀ j, j ≠ i →
      recordTask records (Function.update states i s) j = recordTask records states j :=
    fun j apart => by simp [recordTask, Function.update_of_ne apart]
  have ends (s : WriterState) (free : s.stage? = none) :
      Occupied (recordTask records (Function.update states i s)) (pool.running.eraseIdx index) :=
    finish _ (by simp [recordTask, at_, free]) (others s)
  cases stage with
  | vertex =>
      have writing : states i = .writingVertex := by
        cases state : states i <;> simp [state, WriterState.stage?] at running ⊢
      have returned := fun m => held.written.upsertVertex at_ writing m
      refine Prog.wp_perform ⟨states, held.written⟩ (fun m _ => ?_) fun m ok _ answered => ?_
      · obtain ⟨states', written, -⟩ := returned m
        exact ⟨states', written⟩
      · obtain ⟨_, written, after⟩ := returned m
        obtain rfl := after ok answered
        cases ok with
        | false =>
            exact ⟨_, held.advance .vertexFailed active nofun trivial written (ends _ rfl) rfl
              (fun _ => rfl) nofun ended_handler⟩
        | true =>
            rw [if_neg (by simp)]
            split_ifs with ports
            · -- The goroutine of an interface goes on with the relation.
              have started (m' : Move syncService) : Written sourceId entity snapshotAt records before
                  (Function.update states i .writingRelation)
                  (handler (.service (.startRelation (ownerRelation sourceId entity snapshotAt r)) :
                    Call syncService) m'
                      (handler (vertexCall sourceId entity snapshotAt r) m world).2).2 := by
                have next := written.event at_ (s := .writingRelation)
                  (writes_handler (.service
                    (.startRelation (ownerRelation sourceId entity snapshotAt r))) m' _)
                  (by rw [Function.update_self]; rfl)
                rwa [Function.update_idem] at next
              refine Prog.wp_perform ⟨_, written⟩ (fun m' _ => ⟨_, started m'⟩) fun m' _ _ _ => ?_
              refine ⟨_, held.advance .writingRelation active nofun ports (started m')
                (change _ _ ?_ (others _)) rfl id (fun _ => rfl)
                fun ended => ended_handler (ended_handler ended)⟩
              simp [recordTask, at_, WriterState.stage?]
            · exact ⟨_, held.advance .vertexWritten active nofun ports written (ends _ rfl) rfl id
                (fun _ => rfl) ended_handler⟩
  | relation =>
      have writing : states i = .writingRelation := by
        cases state : states i <;> simp [state, WriterState.stage?] at running ⊢
      have ports : entity = .interface := by
        have suits := held.fits i
        rwa [writing] at suits
      have returned := fun m => held.written.upsertRelation at_ writing m
      refine Prog.wp_perform ⟨states, held.written⟩ (fun m _ => ?_) fun m ok _ answered => ?_
      · obtain ⟨states', written, -⟩ := returned m
        exact ⟨states', written⟩
      · obtain ⟨_, written, after⟩ := returned m
        obtain rfl := after ok answered
        have free : (if ok then WriterState.relationWritten else .relationFailed).stage? = none := by
          cases ok <;> rfl
        refine ⟨_, held.advance _ active ?_ ?_ written (ends _ free) rfl ?_ ?_ ended_handler⟩
        · cases ok <;> nofun
        · cases ok <;> exact ports
        · intro failed
          simp [failed]
        · cases ok <;> simp [WriterState.failed]

theorem writers_takeTurn (turn : PoolTurn)
    (held : PoolWriters sourceId entity snapshotAt records before states pool world) :
    Prog.wp handler (fun _ => True) (takeTurn w sourceId entity snapshotAt pool turn : SyncProg ε Pool)
      (TurnPost sourceId entity snapshotAt records before) world := by
  cases turn with
  | launch => exact writers_launchWrite held
  | cut => exact writers_cutLaunch held
  | finish index =>
      simp only [takeTurn]
      split
      · exact ⟨states, held⟩
      · rename_i here
        exact writers_finishWrite here held

/-! ## A whole page -/

variable (sourceId entity snapshotAt records before) in
/-- Where the pool is left nobody is running; unless something failed or the context has ended,
everybody has written. -/
structure WritersDone (states : Nat → WriterState) (failed : Bool) (world : World syncService) :
    Prop where
  written : Written sourceId entity snapshotAt records before states world
  ended : ∀ i, (states i).Ended entity
  complete : failed = false → world.cause.isSome = false →
    ∀ i < records.length, states i = .written entity

theorem PoolWriters.done
    (held : PoolWriters sourceId entity snapshotAt records before states pool world)
    (waiting : pool.waiting = []) (running : pool.running = []) :
    WritersDone sourceId entity snapshotAt records before states pool.failed world where
  written := held.written
  ended i := by
    obtain ⟨k, inside, idle, -⟩ := held.started
    by_cases started : i < records.length
    · have quiet := (running ▸ held.occupied).idle i
      refine WriterState.ended_of_stage? (held.fits i) ?_
      simpa [recordTask, List.getElem?_eq_getElem started] using quiet
    · exact Or.inl ((idle i).mpr (inside.trans (Nat.le_of_not_lt started)))
  complete fine alive i started := by
    obtain ⟨k, inside, idle, rest⟩ := held.started
    have quiet := (running ▸ held.occupied).idle i
    have free : (states i).stage? = none := by
      simpa [recordTask, List.getElem?_eq_getElem started] using quiet
    have all : records.length ≤ k := by
      rcases rest with rest | ⟨-, failed | over_⟩
      · rw [waiting] at rest
        exact List.drop_eq_nil_iff.mp rest.symm
      · rw [fine] at failed
        cases failed
      · rw [alive] at over_
        cases over_
    have sound := held.sound fine i
    rcases WriterState.ended_of_stage? (held.fits i) free with unstarted | bad | bad | good
    · exact absurd ((idle i).mp unstarted) (Nat.not_le.mpr (started.trans_le all))
    · rw [bad] at sound
      cases sound
    · rw [bad] at sound
      cases sound
    · exact good

theorem writers_loop (n : Nat) (start : before = world.writes) :
    Prog.wp handler (fun _ => True)
      (Prog.loop (poolTurn w sourceId entity snapshotAt) n ⟨records, [], false⟩ : SyncProg ε Bool)
      (fun o world' => ∃ states, match o with
        | .ok failed => WritersDone sourceId entity snapshotAt records before states failed world'
        | _ => Written sourceId entity snapshotAt records before states world') world := by
  refine Prog.wp_loop (fun pool world =>
    ∃ states, PoolWriters sourceId entity snapshotAt records before states pool world) ?_ ?_ n _ ?_
  · rintro pool world ⟨states, held⟩
    exact ⟨states, held.written⟩
  · rintro pool world ⟨states, held⟩
    unfold poolTurn
    split_ifs with idle
    · exact ⟨states, held.done idle.1 idle.2⟩
    · refine Prog.wp_perform ⟨states, held.written⟩
        (fun m _ => ⟨states, (held.silent (c := .service .schedule) rfl m).written⟩)
        fun m turn _ _ => ?_
      have held := held.silent (c := .service .schedule) rfl m
      refine Prog.wp_bind (Prog.wp_mono (writers_takeTurn turn held) fun o world' post => ?_)
      obtain ⟨states, post⟩ := post
      cases o with
      | ok pool => exact ⟨states, post⟩
      | error e => exact ⟨states, post⟩
      | pending => exact ⟨states, post⟩
  · have nobody (i : Nat) : recordTask records (fun _ => .idle) i = none := by
      simp [recordTask, WriterState.stage?]
    refine ⟨fun _ => .idle, ⟨[], ?_, ?_⟩, ⟨[], .nil, .nil, fun i active => ?_⟩, fun _ => trivial,
      ⟨0, Nat.zero_le _, fun j => iff_of_true rfl (Nat.zero_le j), Or.inl rfl⟩, fun _ _ => rfl⟩
    · rw [start, List.append_nil]
    · have silent : recordHistory sourceId entity snapshotAt records (fun _ => .idle) =
          fun _ => [] := by
        funext i
        cases at_ : records[i]? <;> simp [recordHistory, at_, WriterState.history]
      rw [silent]
      exact shuffled_nil
    · rw [nobody i] at active
      cases active

/-- **Every goroutine of a page goes its way, and is waited for.**  Wherever an execution of
`writeEntityPage` has got, the writes it has added are the histories of one goroutine for each record,
in some order.  When it has returned every goroutine has ended; when it returns nil every one has
written its record. -/
theorem writeEntityPage_writes (w : SyncWorker) (sourceId : String) (entity : EntityType)
    (snapshotAt : Time) (records : List EntityRecord) (script : List (Move syncService))
    (start : World syncService) :
    ∃ states events,
      ((writeEntityPage w sourceId entity snapshotAt records :
        SyncProg ε (Except WriteError Unit)).run handler script start).2.1.writes =
          start.writes ++ events ∧
      Shuffled (recordHistory sourceId entity snapshotAt records states) events ∧
      (∀ result, ((writeEntityPage w sourceId entity snapshotAt records :
        SyncProg ε (Except WriteError Unit)).run handler script start).1 = .ok result →
          ∀ i, (states i).Ended entity) ∧
      (((writeEntityPage w sourceId entity snapshotAt records :
        SyncProg ε (Except WriteError Unit)).run handler script start).1 = .ok (.ok ()) →
          ∀ i < records.length, states i = .written entity) := by
  have pre : Prog.wp handler (fun _ => True) (writeEntityPage w sourceId entity snapshotAt records :
      SyncProg ε (Except WriteError Unit)) (fun o world' => ∃ states,
        Written sourceId entity snapshotAt records start.writes states world' ∧
        (∀ result, o = .ok result → ∀ i, (states i).Ended entity) ∧
        (o = .ok (.ok ()) → ∀ i < records.length, states i = .written entity)) start := by
    refine Prog.wp_bind (Prog.wp_mono (writers_loop w.iterations rfl) fun o world post => ?_)
    obtain ⟨states, post⟩ := post
    cases o with
    | error e => exact ⟨states, post, nofun, nofun⟩
    | pending => exact ⟨states, post, nofun, nofun⟩
    | ok failed =>
        have later := fun m => post.written.silent (writes_silent (c := .contextCause) rfl m world)
        refine Prog.wp_bind (Prog.wp_perform ⟨states, post.written, nofun, nofun⟩
          (fun m _ => ⟨states, later m, nofun, nofun⟩) fun m cause _ _ => ?_)
        have over_ := fun m' => (later m).silent (writes_silent (c := .contextErr) rfl m' _)
        rw [Prog.pure_eq, Prog.wp_ret]
        dsimp only
        by_cases lost : decide (cause = some Cause.leaseLost) = true
        · rw [if_pos lost]
          exact ⟨states, later m, fun _ _ => post.ended, nofun⟩
        · rw [if_neg lost]
          refine Prog.wp_perform ⟨states, later m, nofun, nofun⟩
            (fun m' _ => ⟨states, over_ m', nofun, nofun⟩) fun m' done _ answered => ?_
          have known := respond_of_handler answered
          split_ifs with canceled failed
          · exact ⟨states, over_ m', fun _ _ => post.ended, nofun⟩
          · exact ⟨states, over_ m', fun _ _ => post.ended, nofun⟩
          · refine ⟨states, over_ m', fun _ _ => post.ended, fun _ => ?_⟩
            refine post.complete (Bool.eq_false_iff.mpr failed) (Bool.eq_false_iff.mpr fun ended => ?_)
            have ended := ended_handler (c := .contextErr) (m := m')
              (ended_handler (c := .contextCause) (m := m) ended)
            exact canceled (known.symm.trans ended)
  obtain ⟨states, ⟨events, whole, shuffled⟩, ended, complete⟩ :=
    Prog.wp_run (Prog.shrinking_true handler) pre script trivial
  exact ⟨states, events, whole, shuffled, ended, complete⟩

end

end UnifiedInfraTopology
