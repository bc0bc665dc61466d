import UnifiedInfraTopology.Repository.RunInvariants

/-!
# What an answer says about the stored runs

Two operations whose callers conclude something about the stored runs from the answer.

* `TransitionRun` sends an update and then reads the row, outside a transaction.  An error of the
  update leaves the row alone; an error of the read does not (`transitionRun_unchanged_iff`).
* `ClaimNext` expires stale runs in the transaction of the claim.  A claim keeps the expiry; the answer
  that no run is queued rolls it back (`claimNext_expires_iff`).
-/

namespace UnifiedInfraTopology

open Lib

namespace Store

/-! ## `TransitionRun` -/

/-- `TransitionRun` with its statements: an update and a select, each of which may fail.  A statement
fails when the database refuses it, and when the context of the caller is done. -/
def transitionRunStatements (updateFails readFails : Bool) (runId : String)
    (origin target : SyncRunStatus) (now : Time) (errorCode : String) (s : Store) :
    Except InventoryError SyncRun × Store :=
  if runId = "" ∨ now.isZero ∨ ¬syncRunTransitionAllowed origin target then (.error .conflict, s)
  else if target = .failed ∧ ¬syncRunErrorCodePattern errorCode then (.error .conflict, s)
  else if updateFails then (.error .database, s)
  else
    let errorCode := if target = .failed then errorCode else ""
    let now := now.truncateMicro
    let p : SyncRun → Bool := fun r => decide (r.id = runId) && transitionable origin target now r
    let after : Store := { s with
      runs := s.runs.update p (transitioned target now errorCode) (id_transitioned _ _ _) }
    if s.runs.matched p ≠ 1 then (.error .conflict, after)
    else if readFails then (.error .database, after)
    else
      match after.runs.find? runId with
      | none => (.error .notFound, after)
      | some run => (.ok run, after)

/-- The arguments are accepted, and the update applies to the stored run. -/
def Transitions (runId : String) (origin target : SyncRunStatus) (now : Time) (errorCode : String)
    (s : Store) : Prop :=
  ¬(runId = "" ∨ now.isZero ∨ ¬syncRunTransitionAllowed origin target) ∧
    ¬(target = .failed ∧ ¬syncRunErrorCodePattern errorCode) ∧
    ∃ r, s.runs.find? runId = some r ∧ transitionable origin target now.truncateMicro r = true

section

variable {runId : String} {origin target : SyncRunStatus} {now : Time} {errorCode : String}
  {s : Store} {updateFails readFails : Bool}

/-- Where the update does not apply, or fails, nothing is written. -/
theorem transitionRunStatements_refused
    (refused : ¬(s.Transitions runId origin target now errorCode ∧ updateFails = false)) :
    ∃ e, transitionRunStatements updateFails readFails runId origin target now errorCode s =
      (.error e, s) := by
  unfold transitionRunStatements
  split
  · exact ⟨_, rfl⟩
  · rename_i legal
    split
    · exact ⟨_, rfl⟩
    · rename_i coded
      split
      · exact ⟨_, rfl⟩
      · rename_i sent
        have unmatched : s.runs.matched (fun r => decide (r.id = runId) &&
            transitionable origin target now.truncateMicro r) ≠ 1 := by
          intro one
          exact refused ⟨⟨legal, coded, Table.matched_key_eq_one.mp one⟩, by simpa using sent⟩
        dsimp only
        rw [if_pos unmatched, Table.update_of_matched_zero (Table.matched_key_eq_zero unmatched)]
        exact ⟨_, rfl⟩

/-- Where the update applies, the row has its new status, whatever becomes of the read. -/
theorem transitionRunStatements_applied (applies : s.Transitions runId origin target now errorCode) :
    ∃ r run after, s.runs.find? runId = some r ∧ r.status = origin ∧
      after.runs.find? runId = some run ∧ run.status = target ∧
      s.transitionRun runId origin target now errorCode = .ok (run, after) ∧
      transitionRunStatements false readFails runId origin target now errorCode s =
        (if readFails then .error .database else .ok run, after) := by
  obtain ⟨legal, coded, r, found, guarded⟩ := applies
  have one : s.runs.matched (fun r => decide (r.id = runId) &&
      transitionable origin target now.truncateMicro r) = 1 :=
    Table.matched_key_eq_one.mpr ⟨r, found, guarded⟩
  have here : r.status = origin := by
    simp only [transitionable, Bool.and_eq_true, beq_iff_eq] at guarded
    exact guarded.1.1
  have stored : (s.runs.update (fun r => decide (r.id = runId) &&
        transitionable origin target now.truncateMicro r)
      (transitioned target now.truncateMicro (if target = .failed then errorCode else ""))
      (id_transitioned _ _ _)).find? runId =
      some (transitioned target now.truncateMicro (if target = .failed then errorCode else "") r) := by
    rw [Table.find?_update, found, Option.map_some, Table.key_of_find? found]
    simp [guarded]
  refine ⟨r, _, { s with runs := _ }, found, here, stored, rfl, ?_, ?_⟩
  · unfold transitionRun
    simp only [if_neg legal, if_neg coded, one, ne_eq, not_true_eq_false, ↓reduceIte, stored]
    rfl
  · unfold transitionRunStatements
    simp only [if_neg legal, if_neg coded, one, ne_eq, not_true_eq_false, Bool.false_eq_true,
      ↓reduceIte, stored]
    split_ifs <;> rfl

/-- Where both statements are answered, the statements are the operation. -/
theorem transitionRunStatements_eq :
    transitionRunStatements false false runId origin target now errorCode s =
      match s.transitionRun runId origin target now errorCode with
      | .ok (run, s') => (.ok run, s')
      | .error e => (.error e, s) := by
  by_cases applies : s.Transitions runId origin target now errorCode
  · obtain ⟨r, run, after, -, -, -, -, ok, same⟩ :=
      transitionRunStatements_applied applies
    rw [ok, same]
    rfl
  · unfold transitionRunStatements transitionRun
    split
    · rfl
    · rename_i legal
      split
      · rfl
      · rename_i coded
        have unmatched : s.runs.matched (fun r => decide (r.id = runId) &&
            transitionable origin target now.truncateMicro r) ≠ 1 :=
          fun one => applies ⟨legal, coded, Table.matched_key_eq_one.mp one⟩
        have unchanged : ∀ f keeps, s.runs.update (fun r => decide (r.id = runId) &&
            transitionable origin target now.truncateMicro r) f keeps = s.runs :=
          fun _ _ => Table.update_of_matched_zero (Table.matched_key_eq_zero unmatched)
        simp only [Bool.false_eq_true, ↓reduceIte, if_pos unmatched, unchanged]

/-- **An error of `TransitionRun` and the stored row.**  The store is as it was before the call that
returned an error, unless the update was applied and the read after it failed. -/
theorem transitionRun_unchanged_iff (updateFails readFails : Bool) (runId : String)
    (origin target : SyncRunStatus) (now : Time) (errorCode : String) (s : Store) :
    (∀ e, (transitionRunStatements updateFails readFails runId origin target now errorCode s).1 =
        .error e →
      (transitionRunStatements updateFails readFails runId origin target now errorCode s).2.runs.find?
        runId = s.runs.find? runId) ↔
      ¬(s.Transitions runId origin target now errorCode ∧ updateFails = false ∧ readFails = true) := by
  by_cases applied : s.Transitions runId origin target now errorCode ∧ updateFails = false
  · obtain ⟨applies, rfl⟩ := applied
    obtain ⟨r, run, after, found, here, moved, there, -, same⟩ :=
      transitionRunStatements_applied applies
    rw [same]
    cases readFails with
    | false => simp
    | true =>
        have apart : origin ≠ target := by
          have allowed := applies.1
          rintro rfl
          cases origin <;> simp [syncRunTransitionAllowed] at allowed
        have changed : after.runs.find? runId ≠ s.runs.find? runId := by
          rw [moved, found]
          intro unchanged
          cases unchanged
          exact apart (here.symm.trans there)
        simp [changed, applies]
  · obtain ⟨e, same⟩ : ∃ e, transitionRunStatements updateFails readFails runId origin target now
        errorCode s = (.error e, s) := transitionRunStatements_refused applied
    have other : ¬(s.Transitions runId origin target now errorCode ∧ updateFails = false ∧
        readFails = true) := fun all => applied ⟨all.1, all.2.1⟩
    simp [same, other]

end

/-! ## `ClaimNext` -/

/-- The answer is a claimed run, or that no run is queued. -/
def ClaimAnswered (startedAt : Time) (s : Store) : Prop :=
  (∃ result, s.claimNext none startedAt = .ok result) ∨ s.claimNext none startedAt = .error .noRun

/-- No run is executing on an expired lease; the runs that were have been canceled where that was
requested, and have failed otherwise. -/
def Expired (startedAt : Time) (s s' : Store) : Prop :=
  (∀ r ∈ s'.runs.rows, r.stale startedAt.truncateMicro "" = false) ∧
    ∀ r ∈ s.runs.rows, r.stale startedAt.truncateMicro "" = true →
      ∃ r', s'.runs.find? r.id = some r' ∧
        r'.status = if r.cancelRequestedAt.isSome then .canceled else .failed

theorem firstClaimed_isSome {rows : List SyncRun} (filled : rows ≠ []) :
    (firstClaimed rows).isSome = true := by
  cases rows with
  | nil => exact (filled rfl).elim
  | cons r rows =>
      rw [firstClaimed]
      split
      · rfl
      · split <;> rfl

theorem firstClaimed_mem {rows : List SyncRun} {r : SyncRun} (first : firstClaimed rows = some r) :
    r ∈ rows := by
  induction rows generalizing r with
  | nil => cases first
  | cons head rows ih =>
      rw [firstClaimed] at first
      split at first
      · cases first
        exact List.mem_cons_self
      · rename_i best found
        split at first
        · cases first
          exact List.mem_cons_of_mem _ (ih found)
        · cases first
          exact List.mem_cons_self

/-- An expiry neither makes nor takes runs that can be claimed. -/
theorem claimable_expired {r : SyncRun} {now : Time} {sourceId : String} :
    claimable (r.expired now sourceId) = claimable r := by
  unfold SyncRun.expired
  split
  · rename_i stale
    have executing : claimable r = false := by
      simp only [SyncRun.stale, Bool.and_eq_true] at stale
      unfold claimable
      cases shape : r.status <;> simp_all [SyncRunStatus.executing]
    rw [executing]
    split <;> rfl
  · rfl

theorem not_stale_expired (r : SyncRun) (now : Time) :
    (r.expired now "").stale now "" = false := by
  unfold SyncRun.expired
  split
  · split <;> rfl
  · rename_i fresh
    simpa using fresh

/-- Where a run can be claimed, a claim finds one after the expiry. -/
theorem claimCandidate_isSome {s : Store} {now : Time} :
    (claimCandidate "" (expireStaleSyncRuns now "" s.runs)).isSome = true ↔
      ∃ r ∈ s.runs.rows, claimable r = true := by
  have rows := rows_expireStaleSyncRuns now "" s.runs
  constructor
  · intro found
    by_contra none_
    have empty : (expireStaleSyncRuns now "" s.runs).rows.filter
        (fun r => claimable r && ("" == "" || r.id == "")) = [] := by
      rw [List.filter_eq_nil_iff, rows]
      intro r' member
      obtain ⟨r, inside, rfl⟩ := List.mem_map.mp member
      rw [claimable_expired]
      intro able
      exact none_ ⟨r, inside, by simpa using able⟩
    rw [claimCandidate, empty] at found
    cases found
  · rintro ⟨r, inside, able⟩
    refine firstClaimed_isSome ?_
    refine List.ne_nil_of_mem (a := r.expired now "") (List.mem_filter.mpr ⟨?_, ?_⟩)
    · rw [rows]
      exact List.mem_map_of_mem inside
    · rw [claimable_expired, able]
      rfl

/-- What a claim that found a run leaves: each row expired, or claimed. -/
theorem claimNext_ok {startedAt : Time} {s s' : Store} {claim : SyncRun × Source}
    (ok : s.claimNext none startedAt = .ok (claim, s')) :
    (∃ r ∈ s.runs.rows, claimable r = true) ∧
    ∃ taken : SyncRun → Bool, (∀ r, taken r = true → claimable r = true) ∧
      s'.runs.rows = (s.runs.rows.map fun r => r.expired startedAt.truncateMicro "").map fun r =>
        if taken r then claimed startedAt.truncateMicro r else r := by
  unfold claimNext Store.claim at ok
  dsimp only at ok
  rw [if_pos rfl] at ok
  split_ifs at ok
  split at ok
  · cases ok
  · rename_i run selected
    have found := claimCandidate_isSome.mp (by rw [selected]; rfl)
    split at ok
    · cases ok
    · split_ifs at ok
      cases ok
      refine ⟨found, fun r => decide (r.id = run.id) && claimable r, fun r taken => ?_, ?_⟩
      · exact (Bool.and_eq_true_iff.mp taken).2
      · rw [← rows_expireStaleSyncRuns]
        rfl

/-- A claim keeps the expiry. -/
theorem expired_of_claimNext {startedAt : Time} {s s' : Store} {claim : SyncRun × Source}
    (ok : s.claimNext none startedAt = .ok (claim, s')) : Expired startedAt s s' := by
  obtain ⟨-, taken, able, rows⟩ := claimNext_ok ok
  constructor
  · intro r' member
    rw [rows] at member
    obtain ⟨e, inside, rfl⟩ := List.mem_map.mp member
    obtain ⟨r, -, rfl⟩ := List.mem_map.mp inside
    split
    · have later : ¬startedAt.truncateMicro + inventoryRunLeaseDuration ≤ startedAt.truncateMicro := by
        have positive : (0 : Time) < inventoryRunLeaseDuration := by decide
        exact not_le.mpr (lt_add_of_pos_right _ positive)
      simp [SyncRun.stale, claimed, SyncRun.leaseStale, later]
    · exact not_stale_expired r _
  · intro r inside stale
    have ended : r.expired startedAt.truncateMicro "" =
        if r.cancelRequestedAt.isSome then r.expireCanceled startedAt.truncateMicro
        else r.expireFailed startedAt.truncateMicro := if_pos stale
    have untaken : ¬taken (r.expired startedAt.truncateMicro "") = true := by
      intro claimed
      have able := able _ claimed
      rw [ended] at able
      split at able <;> cases able
    have there : r.expired startedAt.truncateMicro "" ∈ s'.runs.rows := by
      rw [rows]
      refine List.mem_map.mpr ⟨_, List.mem_map_of_mem inside, ?_⟩
      rw [if_neg untaken]
    have same_id : (r.expired startedAt.truncateMicro "").id = r.id := by
      rw [ended]
      split_ifs <;> rfl
    refine ⟨r.expired startedAt.truncateMicro "", ?_, ?_⟩
    · rw [← same_id]
      exact Table.find?_of_mem there
    · rw [ended]
      split_ifs <;> rfl

/-- Where a run can be claimed, the update of the claim finds it. -/
theorem claimNext_ne_noRun {startedAt : Time} {s : Store}
    (able : ∃ r ∈ s.runs.rows, claimable r = true) :
    s.claimNext none startedAt ≠ .error .noRun := by
  intro none_
  unfold claimNext Store.claim at none_
  dsimp only at none_
  rw [if_pos rfl] at none_
  split at none_
  · cases none_
  obtain ⟨run, selected⟩ := Option.isSome_iff_exists.mp
    ((@claimCandidate_isSome _ startedAt.truncateMicro).mpr able)
  obtain ⟨inside, able⟩ := List.mem_filter.mp (firstClaimed_mem selected)
  have one : (expireStaleSyncRuns startedAt.truncateMicro "" s.runs).matched
      (fun r => decide (r.id = run.id) && claimable r) = 1 :=
    Table.matched_key_eq_one.mpr ⟨run, Table.find?_of_mem inside, (Bool.and_eq_true_iff.mp able).1⟩
  simp only [selected, one, ne_eq, not_true_eq_false, ↓reduceIte] at none_
  split at none_ <;> cases none_

/-- **An answer of `ClaimNext` and the stale runs.**  After a claimed run, or the answer that no run is
queued, no run is executing on a lease that has expired, if and only if there was a run to claim or no
such run before. -/
theorem claimNext_expires_iff (startedAt : Time) (s : Store) (answered : ClaimAnswered startedAt s) :
    Expired startedAt s (s.apply (.claimNext none startedAt)) ↔
      (∃ r ∈ s.runs.rows, claimable r = true) ∨
        ∀ r ∈ s.runs.rows, r.stale startedAt.truncateMicro "" = false := by
  rcases answered with ⟨⟨claim, s'⟩, ok⟩ | none_
  · have applied : s.apply (.claimNext none startedAt) = s' :=
      apply_of_ok (by simp [execute, ok, Except.map])
    rw [applied]
    exact iff_of_true (expired_of_claimNext ok) (Or.inl (claimNext_ok ok).1)
  · -- The transaction of the claim was rolled back.
    have same : s.apply (.claimNext none startedAt) = s :=
      apply_of_error (e := .noRun) (by simp [execute, none_, Except.map])
    have unclaimable : ¬∃ r ∈ s.runs.rows, claimable r = true :=
      fun able => claimNext_ne_noRun able none_
    rw [same]
    constructor
    · exact fun expired => Or.inr expired.1
    · rintro (able | fresh)
      · exact (unclaimable able).elim
      · refine ⟨fresh, fun r inside stale => ?_⟩
        rw [fresh r inside] at stale
        cases stale

end Store

/-! ## Two stores -/

/-- The only run of a source, claimed. -/
def claimedStore : Store :=
  (Store.withoutRuns (oneSource "s") .empty).applyAll
    [.enqueue (queuedRun "r" "s") 1000, .claimNext none 2000]

/-- The read fails after the run was moved to `validating`. -/
theorem transitionRun_changed :
    (Store.transitionRunStatements false true "r" .running .validating 3000 "" claimedStore).1 =
        .error .database ∧
      (Store.transitionRunStatements false true "r" .running .validating 3000 ""
        claimedStore).2.runs.find? "r" ≠ claimedStore.runs.find? "r" := by
  decide +kernel

/-- When the lease of the run has ended and nothing is queued, the run stays as it is. -/
theorem claimNext_unexpired :
    claimedStore.claimNext none (2000 + inventoryRunLeaseDuration) = .error .noRun ∧
      ¬Store.Expired (2000 + inventoryRunLeaseDuration) claimedStore
        (claimedStore.apply (.claimNext none (2000 + inventoryRunLeaseDuration))) := by
  refine ⟨by decide +kernel, fun expired => ?_⟩
  have fresh := expired.1
  exact absurd fresh (by decide +kernel)

/-- Two claimed runs, of which a cancellation is requested for the second, and a queued one. -/
def staleStore : Store :=
  (Store.withoutRuns ⟨[⟨"s", "lab", "cmdb", "ref", true⟩, ⟨"t", "lab", "cmdb", "ref", true⟩,
      ⟨"u", "lab", "cmdb", "ref", true⟩], by simp⟩ .empty).applyAll
    [.enqueue (queuedRun "r" "s") 1000, .claimNext none 2000, .enqueue (queuedRun "q" "t") 3000,
      .claimNext none 4000, .cancel "q" 5000, .enqueue (queuedRun "p" "u") 6000]

/-- When both leases have ended, the queued run is claimed: the first run has failed, and the second is
canceled. -/
theorem claimNext_expires_stale :
    (staleStore.runs.rows.filter fun r =>
        r.stale (4000 + inventoryRunLeaseDuration : Time).truncateMicro "").map
      (fun r => (r.id, r.cancelRequestedAt.isSome)) = [("r", false), ("q", true)] ∧
    Store.Expired (4000 + inventoryRunLeaseDuration) staleStore
      (staleStore.apply (.claimNext none (4000 + inventoryRunLeaseDuration))) := by
  have answered : Store.ClaimAnswered (4000 + inventoryRunLeaseDuration) staleStore := by
    have taken : (staleStore.claimNext none
        (4000 + inventoryRunLeaseDuration)).toOption.isSome = true := by decide +kernel
    cases claimed : staleStore.claimNext none (4000 + inventoryRunLeaseDuration) with
    | ok result => exact Or.inl ⟨result, claimed⟩
    | error e =>
        rw [claimed] at taken
        cases taken
  exact ⟨by decide +kernel, (Store.claimNext_expires_iff _ staleStore answered).mpr
    (Or.inl (by decide +kernel))⟩

end UnifiedInfraTopology
