import UnifiedInfraTopology.Uplink.Execute
import UnifiedInfraTopology.Worker.RunStatus

/-!
# `executeServerUplink` finishes its run

Every exit of `executeServerUplink` in a lawful log: which exits leave the run in a terminal status.

The deferred function moves the run to failed, or to canceled when it finds the parent context done or
a cancellation requested.  The table of transitions allows both until the run is published, and then
only the first.  A published run has no cancellation request, so `CanceledPublished` is the only exit
that leaves the run unfinished.
-/

namespace UnifiedInfraTopology

open Lib

/-! ## What the exits depend on -/

/-- The answers of `ctx.Err() != nil`, which only the deferred function asks for. -/
def observeParent : (c : Call uplinkService) → c.Answer → Option Bool
  | .parentErr, done => some done
  | _, _ => none

/-- The transitions to the published status that were accepted. -/
def observePublished : (c : Call uplinkService) → c.Answer → Option Unit
  | .control (.transitionRun _ _ .publishing _ _), moved => moved
  | _, _ => none

/-- The run was published, and the deferred function found the parent context done. -/
def CanceledPublished (w : World uplinkService) : Prop :=
  w.observed observePublished ≠ [] ∧ (w.observed observeParent).getLast? = some true

instance (w : World uplinkService) : Decidable (CanceledPublished w) :=
  inferInstanceAs (Decidable (_ ∧ _))

/-- The exit condition: unless the store failed in the end, the run is finished or the exit is the
one that cancels a published run. -/
def UplinkEnd (runId : String) (w : World uplinkService) : Prop :=
  TransitionReached w → (w.Ended runId ↔ ¬CanceledPublished w)

/-- The run has a status, and `ctx.Err() != nil` was answered so far as listed. -/
structure Uplinking (runId : String) (status : SyncRunStatus) (asked : List Bool)
    (w : World uplinkService) : Prop where
  executing : status.executing = true
  holds : w.Holds runId status
  asked : w.observed observeParent = asked
  published : w.observed observePublished = [] ↔ status ≠ .publishing

/-- The call neither moves the run nor belongs to the deferred function. -/
def Call.steady : Call uplinkService → Bool
  | .parentErr => false
  | c => c.keepsStatus

section

variable {runId : String} {status : SyncRunStatus} {asked : List Bool} {w : World uplinkService}

theorem observePublished_keeps {c : Call uplinkService} (keeps : c.keepsStatus = true)
    (answer : c.Answer) : observePublished c answer = none := by
  unfold observePublished
  split
  · cases keeps
  · rfl

theorem Uplinking.call {c : Call uplinkService} {m : Move uplinkService}
    (working : Uplinking runId status asked w) (steady : c.steady = true)
    (lawful : (handler c m w).2.lawful runId) :
    Uplinking runId status asked (handler c m w).2 := by
  have keeps : c.keepsStatus = true := by
    cases c with
    | parentErr => cases steady
    | _ => exact steady
  have silent : ∀ answer, observeParent c answer = none := by
    intro answer
    unfold observeParent
    split
    · cases steady
    · rfl
  refine ⟨working.executing, holds_call keeps working.holds working.executing lawful, ?_, ?_⟩
  · rw [observed_silent silent, working.asked]
  · rw [observed_silent (observePublished_keeps keeps), working.published]

/-- The contract of a stage of the body: it leaves with the status of the run. -/
abbrev UplinkStage {α : Type} (runId : String) (p : UplinkProg UplinkExit α)
    (Q : α → World uplinkService → Prop) (w : World uplinkService) : Prop :=
  Prog.Contract handler (World.lawful runId) (fun exit w' => Uplinking runId exit.1 [] w') p Q w

section

variable {ε α β : Type} {exit : ε → World uplinkService → Prop}

theorem contract_steady {c : Call uplinkService} {k : c.Answer → UplinkProg ε β}
    {P : β → World uplinkService → Prop} (working : Uplinking runId status asked w)
    (steady : c.steady = true)
    (next : ∀ answer w', Uplinking runId status asked w' →
      Prog.Contract handler (World.lawful runId) exit (k answer) P w') :
    Prog.Contract handler (World.lawful runId) exit ((Prog.perform c).bind k) P w :=
  Prog.contract_perform fun _ answer lawful _ => next answer _ (working.call steady lawful)

theorem contract_serverUplinkNow {k : Time → UplinkProg ε β} {P : β → World uplinkService → Prop}
    (working : Uplinking runId status asked w)
    (next : ∀ now w', Uplinking runId status asked w' →
      Prog.Contract handler (World.lawful runId) exit (k now) P w') :
    Prog.Contract handler (World.lawful runId) exit (serverUplinkNow.bind k) P w :=
  Prog.contract_perform fun _ now lawful _ =>
    next (Time.truncateMicro now) _ (working.call (c := .now) rfl lawful)

theorem uplink_orStop (working : Uplinking runId status [] w) (message : String) (answer : Option α) :
    UplinkStage runId (orStop status message answer) (fun _ w' => Uplinking runId status [] w') w := by
  cases answer with
  | none => exact Prog.contract_raise working
  | some a => exact Prog.contract_ret working

end

theorem uplink_checkCancel (working : Uplinking runId status [] w) :
    UplinkStage runId (checkCancel runId status) (fun _ w' => Uplinking runId status [] w') w := by
  refine contract_steady working rfl fun done w' working => ?_
  split_ifs
  · exact Prog.contract_raise working
  · refine contract_steady working rfl fun canceled w' working => ?_
    match canceled with
    | none => exact Prog.contract_raise working
    | some true => exact Prog.contract_raise working
    | some false => exact Prog.contract_ret working

/-- A transition that is refused leaves the run in its origin. -/
theorem uplink_moveUplink {target : SyncRunStatus} (working : Uplinking runId status [] w)
    (unpublished : status ≠ .publishing) (executing : target.executing = true) (message : String) :
    UplinkStage runId (moveUplink runId status target message)
      (fun _ w' => Uplinking runId target [] w') w := by
  refine contract_serverUplinkNow working fun now w' working => ?_
  refine Prog.contract_perform fun m moved lawful answered => ?_
  obtain ⟨accepted, refused⟩ := transition_answer working.holds working.executing lawful answered
  have unasked : (handler (.control (.transitionRun runId status target now "")) m w').2.observed
      observeParent = [] := (observed_silent fun _ => rfl).trans working.asked
  have before : w'.observed observePublished = [] := working.published.mpr unpublished
  have seen : (handler (.control (.transitionRun runId status target now "")) m w').2.observed
      observePublished = if target = .publishing then (moved : Option Unit).toList else [] := by
    rw [observed_handler answered, before]
    cases target <;> rfl
  cases moved with
  | none =>
      refine Prog.contract_raise ⟨working.executing, (refused rfl).1, unasked, ?_⟩
      rw [seen]
      exact iff_of_true (by split_ifs <;> rfl) unpublished
  | some reply =>
      refine Prog.contract_ret ⟨executing, (accepted rfl).2, unasked, ?_⟩
      rw [seen]
      split_ifs with publishing
      · exact iff_of_false nofun (not_not.mpr publishing)
      · exact iff_of_true rfl publishing

end

/-! ## Stages -/

section

variable {run : SyncRun} {source : Source} {snapshot : Time} {edges : Int} {w : World uplinkService}

theorem uplink_collectUplinks (working : Uplinking run.id .running [] w) :
    UplinkStage run.id (collectUplinks run source snapshot)
      (fun _ w' => Uplinking run.id .running [] w') w := by
  refine Prog.contract_bind (Prog.contract_mono (uplink_checkCancel working) fun _ w' working => ?_)
  refine contract_serverUplinkNow working fun now w' working => ?_
  refine contract_steady working rfl fun begun w' working => ?_
  refine Prog.contract_bind (Prog.contract_mono (uplink_orStop working _ _)
    fun _ w' working => ?_)
  exact contract_steady working rfl fun result w' working => uplink_orStop working _ _

theorem uplink_advanceUplinks (working : Uplinking run.id .running [] w) :
    UplinkStage run.id (advanceUplinks run source snapshot edges)
      (fun _ w' => Uplinking run.id .running [] w') w := by
  refine Prog.contract_bind (Prog.contract_mono (uplink_checkCancel working) fun _ w' working => ?_)
  split_ifs
  · refine contract_serverUplinkNow working fun now w' working => ?_
    exact contract_steady working rfl fun advanced w' working => uplink_orStop working _ _
  · exact Prog.contract_ret working

theorem uplink_validateUplinks (working : Uplinking run.id .validating [] w) :
    UplinkStage run.id (validateUplinks run snapshot edges)
      (fun _ w' => Uplinking run.id .publishing [] w') w := by
  refine contract_steady working rfl fun valid w' working => ?_
  refine Prog.contract_bind (Prog.contract_mono (uplink_orStop working _ _)
    fun _ w' working => ?_)
  refine Prog.contract_bind (Prog.contract_mono (uplink_checkCancel working)
    fun _ w' working => ?_)
  exact uplink_moveUplink working nofun rfl _

/-- The published run is finished, or the body leaves. -/
theorem uplink_completeUplinks (working : Uplinking run.id .publishing [] w) :
    UplinkStage run.id (completeUplinks run source)
      (fun _ w' => w'.Ended run.id ∧ w'.observed observeParent = []) w := by
  refine contract_steady working rfl fun lost w' working => ?_
  split_ifs
  · exact Prog.contract_raise working
  · refine Prog.contract_bind (Prog.contract_mono (uplink_checkCancel working)
      fun _ w' working => ?_)
    refine contract_serverUplinkNow working fun now w' working => ?_
    refine Prog.contract_perform fun m completed lawful answered => ?_
    obtain ⟨ended, unfinished⟩ := complete_answer working.holds lawful answered
    have unasked : (handler (.control (.completeCheckpointAndRun source.id serverUplinkResource run.id
        .publishing now)) m w').2.observed observeParent = [] :=
      (observed_silent fun _ => rfl).trans working.asked
    cases completed with
    | none =>
        refine Prog.contract_raise ⟨rfl, unfinished rfl, unasked, ?_⟩
        rw [observed_silent fun _ => rfl]
        exact working.published
    | some reply => exact Prog.contract_ret ⟨ended rfl, unasked⟩

theorem uplink_uplinkBody (working : Uplinking run.id .running [] w) :
    UplinkStage run.id (uplinkBody run source snapshot)
      (fun _ w' => w'.Ended run.id ∧ w'.observed observeParent = []) w := by
  refine Prog.contract_bind (Prog.contract_mono (uplink_collectUplinks working)
    fun edges w' working => ?_)
  refine Prog.contract_bind (Prog.contract_mono (uplink_advanceUplinks working)
    fun _ w' working => ?_)
  refine Prog.contract_bind (Prog.contract_mono (uplink_moveUplink working nofun rfl _)
    fun _ w' working => ?_)
  refine Prog.contract_bind (Prog.contract_mono (uplink_validateUplinks working)
    fun _ w' working => ?_)
  exact Prog.contract_bind (Prog.contract_mono (uplink_completeUplinks working)
    fun _ w' ended => Prog.contract_ret ended)

end

/-! ## The deferred function -/

section

variable {runId : String} {w : World uplinkService}

/-- The last transition, from a status and by a decision of the deferred function. -/
theorem end_of_transition {status target : SyncRunStatus} {ended : Bool} {now : Time} {code : String}
    {m : Move uplinkService} {answer : Option Unit} (named : runId ≠ "")
    (working : Uplinking runId status [ended] w)
    (decided : target = .canceled ∨ target = .failed ∧ code = "server_uplink_failed")
    (cause : status = .publishing → (ended = true ↔ target = .canceled))
    (lawful : (handler (.control (.transitionRun runId status target now code)) m w).2.lawful runId)
    (answered : (handler (.control (.transitionRun runId status target now code)) m w).1 =
      some answer) :
    UplinkEnd runId (handler (.control (.transitionRun runId status target now code)) m w).2 := by
  have executing := working.executing
  have silent : ∀ reply, observePublished (.control (.transitionRun runId status target now code))
      reply = none := by
    rcases decided with rfl | ⟨rfl, -⟩ <;> exact fun _ => rfl
  have same : CanceledPublished (handler (.control (.transitionRun runId status target now code)) m
      w).2 ↔ status = .publishing ∧ ended = true := by
    rw [CanceledPublished, observed_silent silent, observed_silent (fun _ => rfl), working.asked,
      Ne, working.published, not_not]
    exact and_congr_right fun _ => Option.some_inj
  intro reached
  rw [same]
  by_cases stuck : status = .publishing ∧ ended = true
  · obtain ⟨rfl, rfl⟩ := stuck
    obtain rfl : target = .canceled := (cause rfl).mp rfl
    have left := holds_of_transition working.holds rfl rfl lawful answered
    exact iff_of_false (left.not_ended rfl) (not_not.mpr ⟨rfl, rfl⟩)
  · have allowed : syncRunTransitionAllowed status target = true := by
      rcases decided with rfl | ⟨rfl, -⟩
      · have unpublished : status ≠ .publishing := fun publishing =>
          stuck ⟨publishing, (cause publishing).mpr rfl⟩
        cases status <;> first | rfl | exact (unpublished rfl).elim | cases executing
      · cases status <;> first | rfl | cases executing
    have terminal : target.terminal = true := by rcases decided with rfl | ⟨rfl, -⟩ <;> rfl
    have coded : target = .failed → syncRunErrorCodePattern code = true := by
      intro failing
      rcases decided with wrong | ⟨-, rfl⟩
      · cases wrong.symm.trans failing
      · decide
    exact iff_of_true (ended_of_transition working.holds executing named allowed terminal coded lawful
      answered reached) stuck

/-- What the deferred function decides. -/
theorem decided_of_signals (status : SyncRunStatus) (ended : Bool) (canceled : Option Bool)
    (unrequested : status = .publishing → canceled ≠ some true) :
    ∃ target code, (if ended || canceled == some true then (SyncRunStatus.canceled, "")
        else (SyncRunStatus.failed, "server_uplink_failed")) = (target, code) ∧
      (target = .canceled ∨ target = .failed ∧ code = "server_uplink_failed") ∧
      (status = .publishing → (ended = true ↔ target = .canceled)) := by
  split_ifs with canceling
  · refine ⟨_, _, rfl, Or.inl rfl, fun publishing => iff_of_true ?_ rfl⟩
    simpa [unrequested publishing] using canceling
  · refine ⟨_, _, rfl, Or.inr ⟨rfl, rfl⟩, fun _ => iff_of_false ?_ nofun⟩
    rintro rfl
    exact canceling rfl

theorem contract_finishUplink {exit : UplinkExit} (named : runId ≠ "")
    (working : Uplinking runId exit.1 [] w) :
    Prog.Contract handler (World.lawful runId) (fun _ => UplinkEnd runId) (finishUplink runId exit)
      (fun _ => UplinkEnd runId) w := by
  refine contract_steady working rfl fun _ w' working => ?_
  refine Prog.contract_perform fun m ended lawful answered => ?_
  have finishing : Uplinking runId exit.1 [ended] (handler .parentErr m w').2 := by
    refine ⟨working.executing, holds_call rfl working.holds working.executing lawful, ?_, ?_⟩
    · rw [observed_handler answered, working.asked]
      rfl
    · rw [observed_silent (observePublished_keeps rfl), working.published]
  refine Prog.contract_perform fun m canceled lawful answered => ?_
  have unrequested : exit.1 = .publishing → canceled ≠ some true := by
    intro publishing
    have held := finishing.holds
    rw [publishing] at held
    exact not_requested_of_publishing held lawful answered
  obtain ⟨target, code, decision, decided, cause⟩ :=
    decided_of_signals exit.1 ended canceled unrequested
  have finishing := finishing.call rfl lawful
  dsimp only
  rw [decision]
  refine contract_serverUplinkNow finishing fun now w' finishing => ?_
  refine Prog.contract_perform fun m moved lawful answered => ?_
  have finished := end_of_transition named finishing decided cause lawful answered
  dsimp only
  split_ifs
  · exact Prog.contract_raise finished
  · exact Prog.contract_raise finished

end

/-! ## The result -/

section

variable (run : SyncRun) (source : Source)

theorem contract_runUplink {snapshot : Time} {w : World uplinkService} (named : run.id ≠ "")
    (working : Uplinking run.id .running [] w) :
    Prog.Contract handler (World.lawful run.id) (fun _ => UplinkEnd run.id)
      (runUplink run source snapshot) (fun _ => UplinkEnd run.id) w := by
  have body : Prog.Contract handler (World.lawful run.id)
      (fun (_ : String) _ => False) (Prog.reify (uplinkBody run source snapshot))
      (fun outcome w' => outcome.casesOn (motive := fun _ => Prop)
        (fun exit => Uplinking run.id exit.1 [] w')
        fun _ => w'.Ended run.id ∧ w'.observed observeParent = []) w :=
    Prog.contract_reify (uplink_uplinkBody working)
  refine Prog.contract_bind (Prog.wp_mono body fun o w' post => ?_)
  rcases o with (exit | edges) | e | _
  · exact contract_finishUplink named post
  · refine Prog.contract_ret fun _ => iff_of_true post.1 ?_
    rintro ⟨-, asked⟩
    rw [post.2] at asked
    cases asked
  · exact post.elim
  · trivial

/-- **A returned `executeServerUplink` has finished its run, unless it cancels a published one.**  The
claimed run is executed while its lease is current, the store keeps its promises, and the last
`TransitionRun` reaches the store; the runner, the validation, the heartbeat and the ends of contexts
are arbitrary. -/
theorem executeServerUplink_terminal (script : List (Move uplinkService))
    (start : World uplinkService) (fresh : start.log = []) (named : run.id ≠ "")
    (stored : start.store.runs.find? run.id = some run) (running : run.status = .running)
    (owned : run.sourceId = source.id) (started : run.startedAt.isSome = true)
    (current : ∃ lease, run.leaseExpiresAt = some lease ∧
      ∀ m ∈ script.head?, m.now.truncateMicro < lease)
    (returned : ((executeServerUplink run source).run handler script start).1 ≠ .pending)
    (lawful : ((executeServerUplink run source).run handler script start).2.1.lawful run.id)
    (reached : TransitionReached
      ((executeServerUplink run source).run handler script start).2.1) :
    ((executeServerUplink run source).run handler script start).2.1.Ended run.id ↔
      ¬CanceledPublished ((executeServerUplink run source).run handler script start).2.1 := by
  obtain ⟨lease, expires, early⟩ := current
  obtain ⟨startedAt, started⟩ := Option.isSome_iff_exists.mp started
  -- The guard lets the claimed run pass.
  have guarded : executeServerUplink run source = serverUplinkNow.bind fun now =>
      if lease ≤ now then .raise "server uplink claimed run invalid"
      else runUplink run source startedAt.truncateMicro := by
    simp only [executeServerUplink, started, expires, owned, running, ne_eq, not_true_eq_false,
      or_self, ↓reduceIte, Prog.bind_eq]
  rw [guarded] at returned lawful reached ⊢
  cases script with
  | nil => exact (returned rfl).elim
  | cons m script =>
      cases hangs : m.hangs with
      | true =>
          simp [serverUplinkNow, Prog.perform, Prog.bind, Prog.run, handler, hangs] at returned
      | false =>
          have begun : ((serverUplinkNow.bind fun now =>
              if lease ≤ now then .raise "server uplink claimed run invalid"
              else runUplink run source startedAt.truncateMicro).run handler (m :: script) start) =
              (runUplink run source startedAt.truncateMicro).run handler script
                (handler .now m start).2 := by
            have late : ¬lease ≤ m.now.truncateMicro := not_le.mpr (early m rfl)
            simp only [serverUplinkNow, Prog.perform, Prog.bind_eq, Prog.bind, Prog.pure_eq, Prog.run,
              handler, hangs, World.respond, Bool.false_eq_true, ↓reduceIte, late]
          rw [begun] at returned lawful reached ⊢
          have working : Uplinking run.id .running [] start := by
            refine ⟨rfl, ⟨run, stored, running, fun publishing => ?_⟩, ?_, iff_of_true ?_ (by rintro ⟨⟩)⟩
            · rw [running] at publishing
              cases publishing
            · rw [World.observed, fresh, List.filterMap_nil]
            · rw [World.observed, fresh, List.filterMap_nil]
          have first := Prog.assume_of_run (shrinking_lawful run.id) _ _ _ lawful
          obtain ⟨finished, left⟩ := Prog.contract_run (shrinking_lawful run.id)
            (contract_runUplink run source named (working.call (c := .now) rfl first)) script lawful
          cases outcome : ((runUplink run source startedAt.truncateMicro).run handler script
              (handler .now m start).2).1 with
          | ok a => exact finished a outcome reached
          | error e => exact left e outcome reached
          | pending => exact (returned outcome).elim

end

/-! ## Two executions -/

/-- A runner without edges. -/
def emptyUplinks : (r : UplinkRequest) → r.Reply
  | .run _ _ => some 0
  | .validate _ _ => true
  | .stopHeartbeat => false

/-- A call that is answered by a runner without edges. -/
def uplinkMove (disturbances : List Disturbance) : Move uplinkService :=
  ⟨disturbances, 3000, .none, false, emptyUplinks⟩

/-- The run `r` of the source `s`, claimed. -/
def claimedUplink : World uplinkService :=
  ⟨(Store.withoutRuns (oneSource "s") .empty).applyAll
    [.enqueue (queuedRun "r" "s") 1000, .claimNext none 2000], none, false, []⟩

/-- The claimed run is executed. -/
def executeClaimedUplink (script : List (Move uplinkService)) :
    Outcome String Int × World uplinkService × List (Move uplinkService) :=
  (executeServerUplink (Store.claimed 2000 (queuedRun "r" "s")) ⟨"s", "lab", "cmdb", "ref", true⟩).run
    handler script claimedUplink

/-- The parent context ends when the run has just been published. -/
def interruptedScript : List (Move uplinkService) :=
  List.replicate 15 (uplinkMove []) ++ uplinkMove [.parentEnds] :: List.replicate 6 (uplinkMove [])

/-- `executeServerUplink` has returned, and its run is still published. -/
theorem executeServerUplink_unfinished :
    claimedUplink.store.runs.find? "r" = some (Store.claimed 2000 (queuedRun "r" "s")) ∧
      (executeClaimedUplink interruptedScript).1 ≠ .pending ∧
      (executeClaimedUplink interruptedScript).2.1.lawful "r" ∧
      TransitionReached (executeClaimedUplink interruptedScript).2.1 ∧
      ¬(executeClaimedUplink interruptedScript).2.1.Ended "r" := by
  decide +kernel

/-- Nothing interrupts the execution. -/
theorem executeServerUplink_terminal_empty :
    (executeClaimedUplink (List.replicate 20 (uplinkMove []))).2.1.Ended "r" ↔
      ¬CanceledPublished (executeClaimedUplink (List.replicate 20 (uplinkMove []))).2.1 := by
  have stored : claimedUplink.store.runs.find? "r" =
      some (Store.claimed 2000 (queuedRun "r" "s")) := by decide +kernel
  have ended : (executeClaimedUplink (List.replicate 20 (uplinkMove []))).1 ≠ .pending ∧
      (executeClaimedUplink (List.replicate 20 (uplinkMove []))).2.1.lawful "r" ∧
      TransitionReached (executeClaimedUplink (List.replicate 20 (uplinkMove []))).2.1 := by
    decide +kernel
  unfold executeClaimedUplink at ended ⊢
  refine executeServerUplink_terminal (Store.claimed 2000 (queuedRun "r" "s"))
    ⟨"s", "lab", "cmdb", "ref", true⟩ (List.replicate 20 (uplinkMove [])) claimedUplink rfl nofun
    stored rfl rfl rfl ⟨_, rfl, ?_⟩ ended.1 ended.2.1 ended.2.2
  intro m first
  cases first
  decide

end UnifiedInfraTopology
