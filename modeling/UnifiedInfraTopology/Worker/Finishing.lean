import UnifiedInfraTopology.Repository.RunInvariants
import UnifiedInfraTopology.Worker.Landmarks
import UnifiedInfraTopology.Worker.Fencing

/-!
# When a run finishes

A run that `executeClaimed` works on should not finish before it started, before its cancellation was
requested, or before its checkpoint was advanced.  The store takes the time from the caller.

Under a clock that does not go back (`Ticking`) a time that is read for the call lies after all that
was stored before the reading.  The exits that pass an earlier time are the ones that fencing meets
too: `Timely` is the condition on them, and on a cancellation that arrives between a reading and its
call.  `executeClaimed_finishes` says that under it the times of a terminal run are in order
(`InOrder`).
-/

namespace UnifiedInfraTopology

open Lib

variable {V : Service}

/-! ## The clock -/

/-- The time that an operation of another client reads from the clock. -/
def Op.clock : Op → Option Time
  | .enqueue _ now | .cancel _ now => some now
  | .claimNext _ startedAt => some startedAt
  | _ => none

/-- When an event happens, as far as it reads the clock. -/
def Event.tick : Event V → Option Time
  | .foreign op _ => op.clock
  | e => e.observed clockReading

/-- The clock is at `since` before the history, and does not go back. -/
def Ticking (since : Time) (log : List (Event V)) : Prop :=
  (since :: log.filterMap Event.tick).Pairwise (· ≤ ·)

instance (since : Time) (log : List (Event V)) : Decidable (Ticking since log) :=
  inferInstanceAs (Decidable (List.Pairwise _ _))

/-- The microsecond was reached in the history. -/
def Reached (since : Time) (log : List (Event V)) (v : Time) : Prop :=
  ∃ t ∈ since :: log.filterMap Event.tick, v ≤ t.truncateMicro

section Clock

variable {since v t : Time} {log : List (Event V)} {e : Event V}

theorem ticking_append {more : List (Event V)} (ticking : Ticking since (log ++ more)) :
    Ticking since log := by
  rw [Ticking, List.filterMap_append, ← List.cons_append] at ticking
  exact (List.pairwise_append.mp ticking).1

theorem Reached.concat (reached : Reached since log v) : Reached since (log ++ [e]) v := by
  obtain ⟨t, member, below⟩ := reached
  refine ⟨t, ?_, below⟩
  rw [List.filterMap_append, ← List.cons_append]
  exact List.mem_append_left _ member

theorem reached_tick (tick : e.tick = some t) : Reached since (log ++ [e]) t.truncateMicro := by
  refine ⟨t, ?_, le_refl _⟩
  simp [List.filterMap_append, tick]

/-- What was reached before an event lies before its time. -/
theorem Reached.le (reached : Reached since log v) (ticking : Ticking since (log ++ [e]))
    (tick : e.tick = some t) : v ≤ t.truncateMicro := by
  obtain ⟨t', member, below⟩ := reached
  rw [Ticking, List.filterMap_append, ← List.cons_append] at ticking
  have order := (List.pairwise_append.mp ticking).2.2 t' member t (by simp [tick])
  exact le_trans below (Time.truncateMicro_mono order)

/-- Every reading lies after the start. -/
theorem since_le_reading (ticking : Ticking since log) {w : World V} (same : w.log = log)
    (reading : t ∈ w.observed clockReading) : since ≤ t := by
  obtain ⟨e, member, observed⟩ := List.mem_filterMap.mp reading
  have tick : e.tick = some t := by
    cases e with
    | call => exact observed
    | _ => cases observed
  exact List.rel_of_pairwise_cons ticking
    (List.mem_filterMap.mpr ⟨e, same ▸ member, tick⟩)

end Clock

/-! ## Cancellations and advances -/

/-- The time of an accepted cancellation of the run. -/
def Event.canceledAt (runId : String) : Event V → Option Time
  | .foreign (.cancel id now) before =>
      if id = runId ∧ before.apply (.cancel id now) ≠ before then some now.truncateMicro else none
  | _ => none

/-- The time of an advance of a checkpoint by the run. -/
def Event.advancedAt (runId : String) : Event V → Option Time
  | .call (.control (.advanceCheckpoint sourceId resource id cursor updatedAt)) _ fault _ before _ =>
      if id = runId ∧ fault ≠ .refused ∧
          before.accepts (.advanceCheckpoint sourceId resource id cursor updatedAt) = true then
        some updatedAt.truncateMicro
      else none
  | _ => none

/-- The events after the last call, the latest first. -/
def sinceLastCall (log : List (Event V)) : List (Event V) :=
  log.reverse.takeWhile fun e => !e.isCall

/-- Where a transition that finishes the run passes a time that the clock was not read for, no
cancellation and no advance was accepted after that time; where the clock was read for it, none was
accepted between the reading and the call. -/
def Timely (runId : String) (past : List (Event V)) : Event V → Prop
  | .call (.control (.transitionRun _ _ target now _)) _ _ _ before _ => target.terminal = true →
      (lastClock past = none →
        (∀ r ∈ before.runs.find? runId, ∀ c ∈ r.cancelRequestedAt, c ≤ now.truncateMicro) ∧
          ∀ e ∈ past, ∀ u ∈ e.advancedAt runId, u ≤ now.truncateMicro) ∧
      (lastClock past ≠ none →
        ∀ e ∈ sinceLastCall past, ∀ c ∈ e.canceledAt runId, c ≤ now.truncateMicro)
  | _ => True

instance (runId : String) (past : List (Event V)) : (e : Event V) → Decidable (Timely runId past e)
  | .call (.control (.transitionRun ..)) .. => by
      dsimp only [Timely]
      infer_instance
  | .call (.control (.enqueue ..)) .. | .call (.control (.cancel ..)) ..
  | .call (.control (.claimNext ..)) .. | .call (.control (.renewRunLease ..)) ..
  | .call (.control (.beginCheckpoint ..)) .. | .call (.control (.advanceCheckpoint ..)) ..
  | .call (.control (.completeCheckpointAndRun ..)) ..
  | .call .now .. | .call .contextErr .. | .call .contextCause .. | .call .parentErr ..
  | .call (.runCancellationRequested _) .. | .call (.service _) ..
  | .foreign .. | .contextEnded _ | .parentEnded => isTrue trivial

/-- The times of a terminal run are in order. -/
def InOrder (runId : String) (w : World V) : Prop :=
  ∀ r ∈ w.store.runs.find? runId, r.status.terminal = true →
    ∃ f ∈ r.finishedAt, (∃ s ∈ r.startedAt, s ≤ f) ∧ (∀ c ∈ r.cancelRequestedAt, c ≤ f) ∧
      ∀ e ∈ w.log, ∀ u ∈ e.advancedAt runId, u ≤ f

instance (runId : String) (w : World V) : Decidable (InOrder runId w) := by
  unfold InOrder
  infer_instance

section SinceLastCall

variable {log : List (Event V)} {e : Event V}

theorem sinceLastCall_background (background : e.isCall = false) :
    sinceLastCall (log ++ [e]) = e :: sinceLastCall log := by
  simp [sinceLastCall, background]

theorem advancedAt_background {runId : String} (background : e.isCall = false) :
    e.advancedAt runId = none := by
  cases e with
  | call => cases background
  | _ => rfl

end SinceLastCall

/-! ## The invariant -/

/-- The run has finished at `f`. -/
structure Finished (runId : String) (start : Time) (log : List (Event V)) (r : SyncRun) : Prop where
  terminal : r.status.terminal = true
  times : ∃ f ∈ r.finishedAt, start ≤ f ∧ (∀ c ∈ r.cancelRequestedAt, c ≤ f) ∧
    ∀ e ∈ log, ∀ u ∈ e.advancedAt runId, u ≤ f

/-- The run is in the hands of the worker: what was stored lies in the past, and before a reading of
the clock that has just been made, except for cancellations that arrived since. -/
structure Open (runId : String) (since : Time) (log : List (Event V)) (r : SyncRun) : Prop where
  executing : r.status.executing = true
  canceled : ∀ c ∈ r.cancelRequestedAt, Reached since log c
  advanced : ∀ e ∈ log, ∀ u ∈ e.advancedAt runId, Reached since log u
  beforeReading : ∀ t, lastClock log = some t →
    (∀ c ∈ r.cancelRequestedAt, c ≤ t.truncateMicro ∨
      ∃ e ∈ sinceLastCall log, c ∈ e.canceledAt runId) ∧
    ∀ e ∈ log, ∀ u ∈ e.advancedAt runId, u ≤ t.truncateMicro

/-- The stored run has started at `start` and is open or finished. -/
def Dating (runId : String) (since start : Time) (log : List (Event V)) (s : Store) : Prop :=
  ∃ r, s.runs.find? runId = some r ∧ r.startedAt = some start ∧
    (Open runId since log r ∨ Finished runId start log r)

section Events

variable {runId : String} {since start : Time} {log : List (Event V)} {s : Store} {e : Event V}
  {r r' : SyncRun}

/-- An event that is no call, and leaves the row alone. -/
theorem Open.background (opened : Open runId since log r) (background : e.isCall = false)
    (status : r'.status = r.status)
    (canceled : ∀ c ∈ r'.cancelRequestedAt, c ∈ r.cancelRequestedAt ∨
      (Reached since (log ++ [e]) c ∧ c ∈ e.canceledAt runId)) :
    Open runId since (log ++ [e]) r' where
  executing := status ▸ opened.executing
  canceled := by
    intro c requested
    rcases canceled c requested with before | ⟨reached, -⟩
    · exact (opened.canceled c before).concat
    · exact reached
  advanced := by
    intro e' member u advanced
    rcases List.mem_append.mp member with earlier | here
    · exact (opened.advanced e' earlier u advanced).concat
    · rw [List.mem_singleton.mp here, advancedAt_background background] at advanced
      cases advanced
  beforeReading := by
    intro t reading
    have silent : ∀ e' ∈ [e], e'.isCall = false := by simpa using background
    rw [lastClock_background silent] at reading
    obtain ⟨cancels, advances⟩ := opened.beforeReading t reading
    rw [sinceLastCall_background background]
    constructor
    · intro c requested
      rcases canceled c requested with before | ⟨-, here⟩
      · rcases cancels c before with below | ⟨e', since', canceled⟩
        · exact .inl below
        · exact .inr ⟨e', List.mem_cons_of_mem _ since', canceled⟩
      · exact .inr ⟨e, List.mem_cons_self, here⟩
    · intro e' member u advanced
      rcases List.mem_append.mp member with earlier | here
      · exact advances e' earlier u advanced
      · rw [List.mem_singleton.mp here, advancedAt_background background] at advanced
        cases advanced

theorem Finished.concat (finished : Finished runId start log r)
    (silent : ∀ u, u ∉ e.advancedAt runId) : Finished runId start (log ++ [e]) r := by
  obtain ⟨terminal, f, finishedAt, started, canceled, advanced⟩ := finished
  refine ⟨terminal, f, finishedAt, started, canceled, fun e' member u advance => ?_⟩
  rcases List.mem_append.mp member with earlier | here
  · exact advanced e' earlier u advance
  · exact (silent u (List.mem_singleton.mp here ▸ advance)).elim

/-- An open run that ends at the time of an event. -/
theorem Open.expire (opened : Open runId since log r) (ticking : Ticking since (log ++ [e]))
    (background : e.isCall = false) (before : start ≤ since.truncateMicro) {t : Time}
    (tick : e.tick = some t) (terminal : r'.status.terminal = true)
    (finishedAt : r'.finishedAt = some t.truncateMicro)
    (canceled : r'.cancelRequestedAt = r.cancelRequestedAt) :
    Finished runId start (log ++ [e]) r' := by
  have started : Reached since log start := ⟨since, List.mem_cons_self, before⟩
  refine ⟨terminal, t.truncateMicro, finishedAt, started.le ticking tick, fun c requested => ?_,
    fun e' member u advance => ?_⟩
  · exact (opened.canceled c (canceled ▸ requested)).le ticking tick
  · rcases List.mem_append.mp member with earlier | here
    · exact (opened.advanced e' earlier u advance).le ticking tick
    · rw [List.mem_singleton.mp here, advancedAt_background background] at advance
      cases advance

/-- An operation of another client. -/
theorem dating_foreign {op : Op} (dating : Dating runId since start log s)
    (foreign : op.owns runId = false) (before : start ≤ since.truncateMicro)
    (ticking : Ticking since (log ++ [Event.foreign (V := V) op s])) :
    Dating runId since start (log ++ [.foreign op s]) (s.apply op) := by
  obtain ⟨r, found, started, phase⟩ := dating
  obtain ⟨r', found', step⟩ := @Store.find?_apply op _ _ _ found
  have id : r.id = runId := Table.key_of_find? found
  rcases phase with opened | finished
  · have executing := opened.executing
    have ends : ∀ t, op.clock = some t → r'.startedAt = some start →
        r'.status.terminal = true → r'.finishedAt = some t.truncateMicro →
        r'.cancelRequestedAt = r.cancelRequestedAt →
        Dating runId since start (log ++ [.foreign op s]) (s.apply op) :=
      fun t tick started' terminal finishedAt canceled => ⟨r', found', started',
        .inr (opened.expire ticking rfl before tick terminal finishedAt canceled)⟩
    cases step with
    | same => exact ⟨r, found', started, .inl (opened.background rfl rfl fun c h => .inl h)⟩
    | cancelQueued now queued => rw [queued] at executing; cases executing
    | cancelRequested now held fresh =>
        refine ⟨_, found', started, .inl (opened.background rfl rfl fun c requested => .inr ?_)⟩
        have time : c = now.truncateMicro := by
          simpa [Store.requested, fresh, eq_comm] using requested
        have changed : s.apply (.cancel r.id now) ≠ s := by
          intro same
          rw [same, found] at found'
          have row := Option.some.inj found'
          have stamped := congrArg SyncRun.cancelRequestedAt row
          rw [fresh] at stamped
          cases stamped
        have accepted : (Event.foreign (V := V) (.cancel r.id now) s).canceledAt runId =
            some now.truncateMicro := if_pos ⟨id, changed⟩
        exact ⟨time ▸ reached_tick rfl, time ▸ accepted⟩
    | claimed target startedAt queued => rw [queued] at executing; cases executing
    | transitioned => simp [Op.owns, id] at foreign
    | renewed => exact ⟨_, found', started, .inl (opened.background rfl rfl fun c h => .inl h)⟩
    | advanced => simp [Op.owns, id] at foreign
    | completed => simp [Op.owns, id] at foreign
    | expiredCanceled _ stale requested expires =>
        rcases expires with ⟨request, t, rfl, rfl⟩ | ⟨t, rfl, rfl⟩
        · exact ends t rfl started rfl rfl rfl
        · exact ends t rfl started rfl rfl rfl
    | expiredFailed _ stale unrequested expires =>
        rcases expires with ⟨request, t, rfl, rfl⟩ | ⟨t, rfl, rfl⟩
        · exact ends t rfl started rfl rfl rfl
        · exact ends t rfl started rfl rfl rfl
  · rw [step.eq_of_terminal finished.terminal] at found'
    exact ⟨r, found', started, .inr (finished.concat fun u advanced => by cases advanced)⟩

/-! ### Calls of the worker -/

/-- The last call of a log read the clock. -/
theorem reached_lastClock {t : Time} (reading : lastClock log = some t) :
    Reached since log t.truncateMicro := by
  obtain ⟨e, last, observed⟩ := Option.bind_eq_some_iff.mp reading
  have member := List.mem_of_getLast? last
  have tick : e.tick = some t := by
    cases e with
    | call => exact observed
    | _ => cases observed
  refine ⟨t, List.mem_cons_of_mem _ (List.mem_filterMap.mpr ⟨e, ?_, tick⟩), le_refl _⟩
  exact (List.mem_filter.mp member).1

theorem lastClock_call {c : Call V} {time : Time} {fault : Fault} {answer : Option c.Answer}
    {before after : Store} : lastClock (log ++ [.call c time fault answer before after]) =
      (Event.call c time fault answer before after).observed clockReading := by
  rw [lastClock, List.filter_append]
  simp [Event.isCall]

theorem observed_control {op : Op} {time : Time} {fault : Fault}
    {answer : Option (Call.control (V := V) op).Answer} {before after : Store} :
    (Event.call (.control op) time fault answer before after).observed clockReading = none := by
  cases answer <;> rfl

/-- An advance finds its run in the hands of the worker. -/
theorem advancedAt_control {op : Op} {time u : Time} {fault : Fault}
    {answer : Option (Call.control (V := V) op).Answer} {before after : Store}
    (advance : u ∈ (Event.call (.control op) time fault answer before after).advancedAt runId) :
    op.isTransition = false ∧ (∃ updatedAt, op.leaseTime = some updatedAt ∧
      u = updatedAt.truncateMicro) ∧
      ∀ r ∈ before.runs.find? runId, r.status = .running := by
  cases op with
  | advanceCheckpoint sourceId resource id cursor updatedAt =>
      simp only [Event.advancedAt, Option.mem_def, Option.ite_none_right_eq_some,
        Option.some.injEq] at advance
      obtain ⟨⟨rfl, -, accepted⟩, rfl⟩ := advance
      refine ⟨rfl, ⟨updatedAt, rfl, rfl⟩, fun r found => ?_⟩
      obtain ⟨after', ok⟩ := Option.isSome_iff_exists.mp accepted
      have executed : before.execute (.advanceCheckpoint sourceId resource id cursor updatedAt) =
          .ok after' := by
        cases result : before.execute (.advanceCheckpoint sourceId resource id cursor updatedAt) with
        | error e => rw [result] at ok; cases ok
        | ok s => rw [result] at ok; cases ok; rfl
      obtain ⟨checkpoint, done⟩ := Store.ok_of_map executed
      obtain ⟨-, ⟨r', locked⟩, -⟩ := Store.advanceCheckpoint_ok done
      obtain ⟨found', -, status, -⟩ := Store.lockRun_eq_some locked
      cases Option.some.inj (found.symm.trans found')
      exact status
  | _ => cases advance

/-- What a call on the control store passes, as the log before it shows. -/
def PassesKnown (since startedAt : Time) (log : List (Event V)) (op : Op) : Prop :=
  (∃ t, lastClock log = some t ∧ op.leaseTime = some t.truncateMicro) ∨
    op.isTransition = true ∧ lastClock log = none ∧ ∃ now, op.leaseTime = some now ∧
      (now = startedAt ∨ ∃ t, since ≤ t ∧ now = t.truncateMicro)

section Control

variable {op : Op} {startedAt time : Time} {fault : Fault}
  {answer : Option (Call.control (V := V) op).Answer} {s' : Store}

/-- A call that leaves the run open. -/
theorem Open.control (opened : Open runId since log r)
    (known : PassesKnown since startedAt log op) (executing : r'.status.executing = true)
    (canceled : r'.cancelRequestedAt = r.cancelRequestedAt) :
    Open runId since (log ++ [.call (.control op) time fault answer s s']) r' where
  executing := executing
  canceled := fun c requested => (opened.canceled c (canceled ▸ requested)).concat
  advanced := by
    intro e' member u advance
    rcases List.mem_append.mp member with earlier | here
    · exact (opened.advanced e' earlier u advance).concat
    · rw [List.mem_singleton.mp here] at advance
      obtain ⟨moves, ⟨updatedAt, timed, rfl⟩, -⟩ := advancedAt_control advance
      rcases known with ⟨t, reading, timed'⟩ | ⟨transition, -⟩
      · cases timed.symm.trans timed'
        rw [Time.truncateMicro_truncateMicro]
        exact (reached_lastClock reading).concat
      · rw [moves] at transition
        cases transition
  beforeReading := by
    intro t reading
    rw [lastClock_call, observed_control] at reading
    cases reading

/-- A call that finishes the run at a time that lies after everything stored. -/
theorem finished_control {f : Time} (silent : ∀ u, u ∉ (Event.call (.control op) time fault answer s
      s').advancedAt runId) (terminal : r'.status.terminal = true)
    (finishedAt : r'.finishedAt = some f) (started : start ≤ f)
    (canceled : ∀ c ∈ r'.cancelRequestedAt, c ≤ f)
    (advanced : ∀ e ∈ log, ∀ u ∈ e.advancedAt runId, u ≤ f) :
    Finished runId start (log ++ [.call (.control op) time fault answer s s']) r' := by
  refine ⟨terminal, f, finishedAt, started, canceled, fun e' member u advance => ?_⟩
  rcases List.mem_append.mp member with earlier | here
  · exact advanced e' earlier u advance
  · exact (silent u (List.mem_singleton.mp here ▸ advance)).elim

/-- The start of the run lies before a time that the worker passes. -/
theorem start_le_passed {now : Time} (ticking : Ticking since log)
    (known : PassesKnown since startedAt log op) (timed : op.leaseTime = some now)
    (before : startedAt.truncateMicro ≤ since.truncateMicro) :
    startedAt.truncateMicro ≤ now.truncateMicro := by
  rcases known with ⟨t, reading, timed'⟩ | ⟨-, -, now', timed', origin⟩
  · cases timed.symm.trans timed'
    rw [Time.truncateMicro_truncateMicro]
    obtain ⟨e, last, observed⟩ := Option.bind_eq_some_iff.mp reading
    have tick : e.tick = some t := by
      cases e with
      | call => exact observed
      | _ => cases observed
    have inside : e ∈ log := (List.mem_filter.mp (List.mem_of_getLast? last)).1
    exact le_trans before (Time.truncateMicro_mono
      (List.rel_of_pairwise_cons ticking (List.mem_filterMap.mpr ⟨e, inside, tick⟩)))
  · cases timed.symm.trans timed'
    rcases origin with rfl | ⟨t, later, rfl⟩
    · exact le_refl _
    · rw [Time.truncateMicro_truncateMicro]
      exact le_trans before (Time.truncateMicro_mono later)

theorem dating_control (dating : Dating runId since startedAt.truncateMicro log s)
    (owned : op.owns runId = true) (known : PassesKnown since startedAt log op)
    (before : startedAt.truncateMicro ≤ since.truncateMicro) (ticking : Ticking since log)
    (timely : Timely runId log (.call (.control op) time fault answer s s'))
    (after : s' = s ∨ s' = s.apply op) :
    Dating runId since startedAt.truncateMicro
      (log ++ [.call (.control op) time fault answer s s']) s' := by
  obtain ⟨r, found, started, phase⟩ := dating
  have id : r.id = runId := Table.key_of_find? found
  rcases phase with opened | finished
  · rcases after with rfl | rfl
    · exact ⟨r, found, started, .inl (opened.control known opened.executing rfl)⟩
    · obtain ⟨r', found', step⟩ := @Store.find?_apply op _ _ _ found
      have stays : r'.startedAt = some startedAt.truncateMicro → r'.status.executing = true →
          r'.cancelRequestedAt = r.cancelRequestedAt →
          Dating runId since startedAt.truncateMicro
            (log ++ [.call (.control op) time fault answer s (s.apply op)]) (s.apply op) :=
        fun started' executing canceled =>
          ⟨r', found', started', .inl (opened.control known executing canceled)⟩
      cases step with
      | same => exact stays started opened.executing rfl
      | @transitioned _ target now code allowed coded current uncanceled =>
          cases ends : target.terminal with
          | false =>
              rcases target_of_transition allowed with rfl | rfl | terminal
              · exact stays started rfl rfl
              · exact stays started rfl rfl
              · rw [ends] at terminal
                cases terminal
          | true =>
              have latest : (∀ c ∈ r.cancelRequestedAt, c ≤ now.truncateMicro) ∧
                  ∀ e ∈ log, ∀ u ∈ e.advancedAt runId, u ≤ now.truncateMicro := by
                obtain ⟨stale, prompt⟩ := timely ends
                rcases known with ⟨t, reading, timed⟩ | ⟨-, unread, -⟩
                · cases Option.some.inj timed
                  rw [Time.truncateMicro_truncateMicro] at prompt ⊢
                  obtain ⟨cancels, advances⟩ := opened.beforeReading t reading
                  refine ⟨fun c requested => ?_, advances⟩
                  rcases cancels c requested with below | ⟨e, since', canceled⟩
                  · exact below
                  · exact prompt (by rw [reading]; simp) e since' c canceled
                · obtain ⟨cancels, advances⟩ := stale unread
                  exact ⟨cancels r found, advances⟩
              have finishedAt : (Store.transitioned target now.truncateMicro
                  (if target = .failed then code else "") r).finishedAt =
                    some now.truncateMicro := by
                simp [Store.transitioned, ends]
              exact ⟨_, found', started, .inr (finished_control (fun u advance => by cases advance)
                ends finishedAt (start_le_passed ticking known rfl before) latest.1 latest.2)⟩
      | advanced => exact stays started opened.executing rfl
      | @completed _ resource completedAt publishing uncanceled current =>
          have started' := start_le_passed ticking known rfl before
          rcases known with ⟨t, reading, timed⟩ | ⟨transition, -⟩
          · cases Option.some.inj timed
            rw [Time.truncateMicro_truncateMicro] at started' found'
            obtain ⟨-, advances⟩ := opened.beforeReading t reading
            exact ⟨_, found', started, .inr (finished_control (fun u advance => by cases advance)
              rfl rfl started' (fun c requested => by cases requested) advances)⟩
          · cases transition
      | renewed => cases owned
      | cancelQueued => cases owned
      | cancelRequested => cases owned
      | claimed => cases owned
      | expiredCanceled _ stale requested expires =>
          rcases expires with ⟨request, t, rfl, rfl⟩ | ⟨t, rfl, rfl⟩ <;> cases owned
      | expiredFailed _ stale unrequested expires =>
          rcases expires with ⟨request, t, rfl, rfl⟩ | ⟨t, rfl, rfl⟩ <;> cases owned
  · have kept : s'.runs.find? runId = some r := by
      rcases after with rfl | rfl
      · exact found
      · obtain ⟨r', found', step⟩ := @Store.find?_apply op _ _ _ found
        rwa [step.eq_of_terminal finished.terminal] at found'
    refine ⟨r, kept, started, .inr (finished.concat fun u advance => ?_)⟩
    obtain ⟨-, -, running⟩ := advancedAt_control advance
    have terminal := finished.terminal
    rw [running r found] at terminal
    cases terminal

end Control

/-- A call that does not reach the control store. -/
theorem dating_other {c : Call V} {time : Time} {fault : Fault} {answer : Option c.Answer}
    {after : Store} (dating : Dating runId since start log s) (other : ∀ op, c ≠ .control op)
    (ticking : Ticking since (log ++ [Event.call c time fault answer s after])) :
    Dating runId since start (log ++ [.call c time fault answer s after]) s := by
  have silent : ∀ u, u ∉ (Event.call c time fault answer s after).advancedAt runId := by
    intro u advance
    cases c with
    | control op => exact other op rfl
    | _ => cases advance
  obtain ⟨r, found, started, phase⟩ := dating
  refine ⟨r, found, started, ?_⟩
  rcases phase with opened | finished
  · have earlier : ∀ {e' u}, e' ∈ log ++ [Event.call c time fault answer s after] →
        u ∈ e'.advancedAt runId → Reached since log u := by
      intro e' u member advance
      rcases List.mem_append.mp member with before | here
      · exact opened.advanced e' before u advance
      · exact (silent u (List.mem_singleton.mp here ▸ advance)).elim
    refine .inl ⟨opened.executing, fun c requested => (opened.canceled c requested).concat,
      fun e' member u advance => (earlier member advance).concat, fun t reading => ?_⟩
    -- What was stored before lies before this reading.
    rw [lastClock_call] at reading
    have tick : (Event.call c time fault answer s after).tick = some t := reading
    exact ⟨fun c requested => .inl ((opened.canceled c requested).le ticking tick),
      fun e' member u advance => (earlier member advance).le ticking tick⟩
  · exact .inr (finished.concat silent)

end Events

/-! ## Executions -/

section Executions

variable {runId : String} {since startedAt : Time} {w : World V}

/-- The invariant of an execution, as far as it goes in order. -/
def DatingSoFar (runId : String) (since startedAt : Time) (w : World V) : Prop :=
  Alone runId w → Ticking since w.log → Throughout (Timely runId) [] w.log →
    Dating runId since startedAt.truncateMicro w.log w.store

theorem dating_disturb (d : Disturbance) (before : startedAt.truncateMicro ≤ since.truncateMicro)
    (dating : Dating runId since startedAt.truncateMicro w.log w.store)
    (alone : Alone runId (w.disturb d)) (ticking : Ticking since (w.disturb d).log) :
    Dating runId since startedAt.truncateMicro (w.disturb d).log (w.disturb d).store := by
  have ends : ∀ e : Event V, e.isCall = false →
      Dating runId since startedAt.truncateMicro (w.log ++ [e]) w.store := by
    intro e background
    obtain ⟨r, found, started, opened | finished⟩ := dating
    · exact ⟨r, found, started, .inl (opened.background background rfl fun c h => .inl h)⟩
    · refine ⟨r, found, started, .inr (finished.concat fun u advance => ?_)⟩
      rw [advancedAt_background background] at advance
      cases advance
  cases d with
  | operation op =>
      exact dating_foreign dating (alone op w.store (List.mem_append_right _ (by simp))) before ticking
  | contextEnds cause => exact ends _ rfl
  | parentEnds => exact ends _ rfl

theorem dating_disturbed (disturbances : List Disturbance)
    (before : startedAt.truncateMicro ≤ since.truncateMicro)
    (dating : Dating runId since startedAt.truncateMicro w.log w.store)
    (alone : Alone runId (w.disturbed disturbances))
    (ticking : Ticking since (w.disturbed disturbances).log) :
    Dating runId since startedAt.truncateMicro (w.disturbed disturbances).log
      (w.disturbed disturbances).store := by
  induction disturbances generalizing w with
  | nil => exact dating
  | cons d disturbances ih =>
      obtain ⟨more, grown, -⟩ := log_disturbed (w.disturb d) disturbances
      have earlier : Ticking since (w.disturb d).log := by
        have whole : Ticking since ((w.disturb d).disturbed disturbances).log := ticking
        rw [grown] at whole
        exact ticking_append whole
      exact ih (dating_disturb d before dating
        (@alone_disturbed _ _ _ disturbances alone) earlier) alone ticking

theorem dating_handler {c : Call V} {m : Move V}
    (before : startedAt.truncateMicro ≤ since.truncateMicro)
    (passes : PassesReading runId startedAt c w) (sofar : DatingSoFar runId since startedAt w) :
    DatingSoFar runId since startedAt (handler c m w).2 := by
  intro alone ticking timely
  obtain ⟨more, grown, background⟩ := log_disturbed w m.disturbances
  rw [log_handler] at ticking timely ⊢
  have aloneBefore := alone_handler alone
  have tickingBefore := ticking_append ticking
  obtain ⟨timelyBefore, timelyHere⟩ := throughout_concat.mp timely
  rw [List.nil_append] at timelyHere
  have tickingStart : Ticking since w.log := by
    rw [grown] at tickingBefore
    exact ticking_append tickingBefore
  have timelyStart : Throughout (Timely runId) [] w.log := by
    rw [grown] at timelyBefore
    exact (throughout_append.mp timelyBefore).1
  have dating := dating_disturbed m.disturbances before
    (sofar (alone_disturbed aloneBefore) tickingStart timelyStart) aloneBefore tickingBefore
  have clock : lastClock (w.disturbed m.disturbances).log = lastClock w.log := by
    rw [grown]
    exact lastClock_background background
  cases c with
  | control op =>
      obtain ⟨owned, source⟩ := passes
      have known : PassesKnown since startedAt (w.disturbed m.disturbances).log op := by
        rw [PassesKnown, clock]
        rcases source with fresh | ⟨transition, unread, now, timed, rfl | ⟨t, reading, rfl⟩⟩
        · exact .inl fresh
        · exact .inr ⟨transition, unread, now, timed, .inl rfl⟩
        · exact .inr ⟨transition, unread, _, timed,
            .inr ⟨t, since_le_reading tickingStart rfl reading, rfl⟩⟩
      exact dating_control dating owned known before tickingBefore timelyHere
        (respond_control (w.disturbed m.disturbances) m op)
  | _ => exact dating_other dating (by simp) ticking

end Executions

/-- The times of a finished run are in order: in every execution under a clock that does not go back,
whose finishing transitions are timely, a terminal run finishes no earlier than it started, than its
cancellation was requested and than any of its checkpoints was advanced. -/
theorem executeClaimed_finishes (worker : SyncWorker) (run : SyncRun) (source : Source)
    (startedAt since : Time) (script : List (Move syncService)) (start : World syncService)
    (fresh : start.log = [])
    (claimed : ∃ r ∈ start.store.runs.find? run.id, r.status = .running ∧
      r.startedAt = some startedAt.truncateMicro ∧
      ∀ c ∈ r.cancelRequestedAt, c ≤ since.truncateMicro)
    (began : startedAt ≤ since)
    (alone : Alone run.id
      ((executeClaimed worker run source startedAt).run handler script start).2.1)
    (ticking : Ticking since
      ((executeClaimed worker run source startedAt).run handler script start).2.1.log)
    (timely : Throughout (Timely run.id) []
      ((executeClaimed worker run source startedAt).run handler script start).2.1.log) :
    InOrder run.id ((executeClaimed worker run source startedAt).run handler script start).2.1 := by
  have before := Time.truncateMicro_mono began
  have here : DatingSoFar run.id since startedAt start := by
    intro _ _ _
    obtain ⟨r, found, running, started, requested⟩ := claimed
    rw [fresh]
    refine ⟨r, found, started, .inl ⟨by rw [running]; rfl, fun c asked => ?_, by simp, ?_⟩⟩
    · exact ⟨since, List.mem_cons_self, requested c asked⟩
    · intro t reading
      cases reading
  have kept := Prog.issues_run (H := handler) (J := PassesReading run.id startedAt)
    (K := DatingSoFar run.id since startedAt) (fun _ _ _ passes => dating_handler before passes)
    (dated_executeClaimed worker run source startedAt start) here script
  obtain ⟨r, found, started, phase⟩ := kept alone ticking timely
  intro r' found' terminal
  cases found.symm.trans found'
  rcases phase with opened | finished
  · have executing := opened.executing
    rcases SyncRunStatus.terminal_iff.mp terminal with same | same | same <;>
      rw [same] at executing <;> cases executing
  · obtain ⟨f, finishedAt, after, canceled, advanced⟩ := finished.times
    exact ⟨f, finishedAt, ⟨_, started, after⟩, canceled, advanced⟩

/-! ## Executions -/

/-- The stored run is the claimed one. -/
theorem claimedWorld_row : ∃ r ∈ claimedWorld.store.runs.find? "r", r.status = .running ∧
    r.startedAt = some (Time.truncateMicro 2000) ∧
    ∀ c ∈ r.cancelRequestedAt, c ≤ Time.truncateMicro 2000 := by
  decide +kernel

/-- The run is canceled at its start, before the cancellation was requested. -/
theorem executeClaimed_finishes_early :
    claimedWorld.log = [] ∧
      Alone "r" (executeClaimedRun (canceledScript 3000)).2.1 ∧
      Ticking 2000 (executeClaimedRun (canceledScript 3000)).2.1.log ∧
      ¬InOrder "r" (executeClaimedRun (canceledScript 3000)).2.1 := by
  decide +kernel

/-- A run that stores a device, and one that is canceled when the cancellation was requested. -/
theorem executeClaimed_finishes_device : InOrder "r" executeDeviceRun.2.1 ∧
    InOrder "r" (executeClaimedRun (canceledScript 2000)).2.1 := by
  have orderly : Alone "r" executeDeviceRun.2.1 ∧ Ticking 2000 executeDeviceRun.2.1.log ∧
      Throughout (Timely "r") [] executeDeviceRun.2.1.log := by
    decide +kernel
  have orderly' : Alone "r" (executeClaimedRun (canceledScript 2000)).2.1 ∧
      Ticking 2000 (executeClaimedRun (canceledScript 2000)).2.1.log ∧
      Throughout (Timely "r") [] (executeClaimedRun (canceledScript 2000)).2.1.log := by
    decide +kernel
  unfold executeDeviceRun at orderly ⊢
  unfold executeClaimedRun at orderly' ⊢
  exact ⟨executeClaimed_finishes ⟨1, 3⟩ (Store.claimed 2000 (queuedRun "r" "s"))
      ⟨"s", "lab", "cmdb", "ref", true⟩ 2000 2000 deviceScript claimedWorld rfl claimedWorld_row
      (by decide) orderly.1 orderly.2.1 orderly.2.2,
    executeClaimed_finishes ⟨1, 1⟩ (Store.claimed 2000 (queuedRun "r" "s"))
      ⟨"s", "lab", "cmdb", "ref", true⟩ 2000 2000 (canceledScript 2000) claimedWorld rfl claimedWorld_row
      (by decide) orderly'.1 orderly'.2.1 orderly'.2.2⟩

end UnifiedInfraTopology
