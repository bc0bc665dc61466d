import UnifiedInfraTopology.Graph.Endpoints
import UnifiedInfraTopology.Lib.Projection
import UnifiedInfraTopology.Uplink.Writes

/-!
# The worker of the server uplinks over a graph

`uplinkHandler` answers the calls of `ServerUplinkWorker.Run` by the calls of the repository, statement
by statement, with everything that can happen to a statement on its way.  All reads come before the
first write (`readsFirst_run`), so that a run over a graph is a run over the fixed content of that graph
(`simulates_uplink`); `UplinkSound` says what the graph has become on the way.
-/

namespace UnifiedInfraTopology

open Lib

/-! ## The environment -/

/-- How a call is answered: as before, with what happens to the statements that it sends. -/
structure UplinkTurn where
  move : UplinkMove
  statements : List GraphMove
  fault : GraphFault

/-- What the worker is told of a call of the repository. -/
def answerOf {ε α : Type} : Outcome ε α → Option (Option α)
  | .ok a => some (some a)
  | .error _ => some none
  | .pending => none

theorem answerOf_some {ε α : Type} {o : Outcome ε α} {answer : Option α}
    (answered : answerOf o = some answer) : (∃ a, o = .ok a ∧ answer = some a) ∨ answer = none := by
  cases o with
  | ok a => exact Or.inl ⟨a, rfl, (Option.some.inj answered).symm⟩
  | error e => exact Or.inr (Option.some.inj answered).symm
  | pending => cases answered

/-- The answer of a call, and the graph after it. -/
def UplinkTurn.reply (m : UplinkTurn) (g : Graph) : (c : UplinkCall) → Option c.Answer × Graph
  | .contextErr => (if m.move.answered then some m.move.fails else none, g)
  | .collectPage _ => (if m.move.answered then some m.move.page else none, g)
  | .vertexExists identity =>
      let ran := (vertexExists identity).run graphHandler m.statements g
      (answerOf ran.1, ran.2.1)
  | .serverUplinkEndpointsValid server tor port =>
      (if m.move.answered then
        some (serverUplinkEndpointsValid g m.fault server tor port).toOption else none, g)
  | .upsertRelation relation =>
      let ran := (upsertRelation relation).run graphHandler m.statements g
      (answerOf ran.1, ran.2.1)

/-- Every call is logged, with its answer. -/
def uplinkHandler : Handler UplinkCall UplinkCall.Answer UplinkTurn (List UplinkEvent × Graph) :=
  fun c m s => ((m.reply s.2 c).1, s.1 ++ [⟨c, (m.reply s.2 c).1⟩], (m.reply s.2 c).2)

/-! ## The calls of the repository -/

section

variable {g : Graph}

/-- What the worker reads in a graph. -/
def Graph.uplinkReads (g : Graph) : UplinkGraph where
  vertexExists identity := identity.vid.toOption.any fun vid =>
    (g.vertices.find? (identity.entityType, vid)).isSome
  endpointsValid server tor port := serverUplinkEndpointsValid g .none server tor port = .ok true

/-- `VertexExists` leaves the graph alone, and returns what is stored. -/
theorem run_vertexExists (identity : EntityIdentity) (script : List GraphMove) :
    ((vertexExists identity).run graphHandler script g).2.1 = g ∧
      ∀ answer, ((vertexExists identity).run graphHandler script g).1 = .ok answer →
        answer = g.uplinkReads.vertexExists identity := by
  unfold vertexExists
  cases topologyEntitySchemas identity.entityType with
  | none => exact ⟨rfl, nofun⟩
  | some schema =>
      cases hashed : identity.vid with
      | error e => exact ⟨rfl, nofun⟩
      | ok vid =>
          cases script with
          | nil => exact ⟨rfl, nofun⟩
          | cons m script =>
              obtain ⟨fault, order⟩ := m
              cases fault with
              | refused => exact ⟨rfl, nofun⟩
              | lost => exact ⟨rfl, nofun⟩
              | none =>
                  simp only [executeTopology, Prog.bind, Prog.run, graphHandler, Statement.execute,
                    Graph.uplinkReads, hashed, Except.toOption, Option.any_some]
                  cases g.vertices.find? (identity.entityType, vid) with
                  | none => simp [Prog.run]
                  | some v =>
                      simp only [Option.elim_some, List.cons_ne_nil, ↓reduceIte,
                        topologySingleStringRow, List.length_cons, List.length_nil]
                      split_ifs
                      all_goals simp [Prog.run]

/-- An ownership that is answered is that of the graph. -/
theorem endpointsValid_of_ok {fault : GraphFault} {server tor port : EntityIdentity} {answer : Bool}
    (ok : serverUplinkEndpointsValid g fault server tor port = .ok answer) :
    answer = g.uplinkReads.endpointsValid server tor port := by
  have same := serverUplinkEndpointsValid_ok ok
  cases answer with
  | true => simp [Graph.uplinkReads, same]
  | false => simp [Graph.uplinkReads, same]

end

/-- What has landed stays. -/
theorem edgeLanded_history {related : Relation → Prop} {g g' : Graph} {r : Relation}
    (history : History (fun _ => False) related (fun _ => False) g g') (landed : EdgeLanded g r) :
    EdgeLanded g' r := by
  induction history with
  | refl => exact landed
  | tail _ changed before =>
      cases changed with
      | written here => exact here.retains.edges r before
      | orphans none_ _ => exact none_.elim

/-- `UpsertRelation`, alone: its statements are a history, and when it has returned nil the edge is
stored. -/
theorem run_edgeInFlight {r : Relation} {g : Graph} {p : GraphProg Unit} (call : EdgeInFlight g r p)
    (script : List GraphMove) :
    History (fun _ => False) (· = r) (fun _ => False) g (p.run graphHandler script g).2.1 ∧
      ((p.run graphHandler script g).1 = .ok () → EdgeLanded (p.run graphHandler script g).2.1 r) := by
  induction script generalizing g p with
  | nil =>
      cases p with
      | ret a => exact ⟨.refl, fun _ => call.landed⟩
      | _ => exact ⟨.refl, nofun⟩
  | cons m script ih =>
      cases p with
      | ret a => exact ⟨.refl, fun _ => call.landed⟩
      | raise e => exact ⟨.refl, nofun⟩
      | spin => exact ⟨.refl, nofun⟩
      | call c k =>
          have sound : Sound g (fun _ => False) (· = r) (fun _ => False)
              ⟨g, [], [(r, .call c k)]⟩ := by
            refine ⟨.refl, fun _ member => (List.not_mem_nil member).elim, fun other member => ?_⟩
            cases List.mem_singleton.mp member
            exact ⟨rfl, call⟩
          obtain ⟨next, -, after⟩ := sound.edgeTurn (List.mem_singleton_self _) m
          have ran : (Prog.call c k).run graphHandler (m :: script) g =
              (Prog.stepOnce graphHandler (.call c k) m g).1.run graphHandler script
                (Prog.stepOnce graphHandler (.call c k) m g).2 := by
            obtain ⟨fault, order⟩ := m
            cases fault <;> rfl
          rw [ran]
          obtain ⟨rest, landed⟩ := ih next
          exact ⟨after.history.trans rest, landed⟩

/-! ## The reads come first -/

namespace ServerUplink

/-- The call reads the graph. -/
def ReadsGraph : UplinkCall → Prop
  | .vertexExists _ | .serverUplinkEndpointsValid _ _ _ => True
  | _ => False

/-- A read of the graph finds nothing written. -/
def ReadsFirst (c : UplinkCall) (log : List UplinkEvent) : Prop := ReadsGraph c → writes log = []

section

variable {graph : UplinkGraph} {ε α : Type} {log : List UplinkEvent}

theorem unread_collect (retain : Bool) (n : Nat) : (collect retain n).Only (¬ReadsGraph ·) := by
  refine Prog.only_loop (fun pass => ?_) n _
  unfold collectNext
  refine Prog.only_bind (Prog.only_perform.mpr id) fun answer => ?_
  cases answer with
  | error e => trivial
  | ok page =>
      cases taken : acceptPage retain pass page with
      | error failure =>
          simp only [taken]
          trivial
      | ok pass' =>
          simp only [taken]
          refine Prog.only_bind (Prog.only_perform.mpr id) fun done => ?_
          split
          · trivial
          · split <;> trivial

theorem unread_writeRelation (snapshot : Time) (result : ServerUplinkResult)
    (identity : RelationIdentity) :
    (writeRelation snapshot result identity).Only (¬ReadsGraph ·) := by
  unfold writeRelation
  refine Prog.only_bind (Prog.only_perform.mpr id) fun done => ?_
  split
  · trivial
  · dsimp only
    split
    · trivial
    · refine Prog.only_bind (Prog.only_perform.mpr id) fun answer => ?_
      cases answer <;> trivial

theorem unread_verify (n : Nat) (first : Collection) (result : ServerUplinkResult) :
    (verify n first result).Only (¬ReadsGraph ·) := by
  unfold verify
  refine Prog.only_bind (Prog.only_reify (unread_collect false n)) fun second => ?_
  cases second with
  | error failure => trivial
  | ok second =>
      dsimp only
      split
      · trivial
      · refine Prog.only_bind (Prog.only_perform.mpr id) fun done => ?_
        split <;> trivial

theorem readsFirst_of_unread {p : UplinkRun ε α} (unread : p.Only (¬ReadsGraph ·)) :
    p.Issues (uplinkWorld graph) ReadsFirst log :=
  Prog.issues_of_only unread fun _ _ free reads => (free reads).elim

/-- A call that writes nothing leaves the writes alone. -/
theorem writes_quiet {c : UplinkCall} {move : UplinkMove} (quiet : Quiet c)
    (unwritten : writes log = []) : writes (uplinkWorld graph c move log).2 = [] := by
  change writes (log ++ [_]) = []
  rw [writes_append, unwritten]
  cases c with
  | upsertRelation relation => exact quiet.elim
  | _ => rfl

/-- What comes after a program that writes nothing finds nothing written. -/
theorem readsFirst_bind {β : Type} {p : UplinkRun ε α} {f : α → UplinkRun ε β} (quiet : p.Only Quiet)
    (unwritten : writes log = [])
    (next : ∀ a log, writes log = [] → (f a).Issues (uplinkWorld graph) ReadsFirst log) :
    (p.bind f).Issues (uplinkWorld graph) ReadsFirst log := by
  have first : Prog.Behaves (uplinkWorld graph) ReadsFirst p (fun _ log => writes log = []) log :=
    Prog.behaves_of_only (I := fun log => writes log = []) quiet (fun _ _ _ here _ => here)
      (fun _ _ _ silent here => writes_quiet silent here) unwritten
  exact Prog.issues_bind first.issues (Prog.contract_mono first.ensures next)

/-- A run reads the graph before it writes. -/
theorem readsFirst_run (worker : ServerUplinkWorker) (source : Source) (snapshot : Time) (n : Nat) :
    (run worker source snapshot n).Issues (uplinkWorld graph) ReadsFirst [] := by
  unfold run
  refine readsFirst_bind ⟨trivial, fun _ => trivial⟩ rfl fun done log unwritten => ?_
  split
  · trivial
  · split
    · trivial
    · refine readsFirst_bind (Prog.only_reify (only_collect true n)) unwritten
        fun first log unwritten => ?_
      cases first with
      | error failure => trivial
      | ok first =>
          dsimp only
          split
          · trivial
          · refine readsFirst_bind (Prog.only_foldlM only_checkCandidate _ _) unwritten
              fun checks log _ => readsFirst_of_unread ?_
            exact Prog.only_bind (Prog.only_foldlM (unread_writeRelation snapshot) _ _)
              fun result => unread_verify n _ _

end

/-! ## What the graph has become -/

/-- The log and the graph of a run.  Before the first write the graph is the first one; it has come from
it by the writes, those that have returned nil are stored; and the pages are allowed ones. -/
structure UplinkSound (allowed : UplinkPage → Prop) (first : Graph) (s : List UplinkEvent × Graph) :
    Prop where
  untouched : writes s.1 = [] → s.2 = first
  history : History (fun _ => False) (· ∈ writes s.1) (fun _ => False) first s.2
  landed : ∀ relation, (⟨.upsertRelation relation, some (some ())⟩ : UplinkEvent) ∈ s.1 →
    EdgeLanded s.2 relation
  pages : ∀ start page, (⟨.collectPage start, some (.ok page)⟩ : UplinkEvent) ∈ s.1 → allowed page

section

variable {allowed : UplinkPage → Prop} {first : Graph} {s : List UplinkEvent × Graph}

theorem uplinkSound_start (first : Graph) : UplinkSound allowed first ([], first) where
  untouched _ := rfl
  history := .refl
  landed _ member := (List.not_mem_nil member).elim
  pages _ _ member := (List.not_mem_nil member).elim

/-- A call that does not write. -/
theorem UplinkSound.silent (sound : UplinkSound allowed first s) {e : UplinkEvent}
    (silent : written e = none)
    (page : ∀ start page, e = ⟨.collectPage start, some (.ok page)⟩ → allowed page) :
    UplinkSound allowed first (s.1 ++ [e], s.2) := by
  have same : writes (s.1 ++ [e]) = writes s.1 := by
    rw [writes_append, writes, writes, List.filterMap_cons, silent]
    exact List.append_nil _
  refine ⟨fun unwritten => sound.untouched (same ▸ unwritten), ?_, fun relation member => ?_,
    fun start p member => ?_⟩
  · simp only [same]
    exact sound.history
  · rcases List.mem_append.mp member with old | new
    · exact sound.landed relation old
    · rw [← List.mem_singleton.mp new] at silent
      cases silent
  · rcases List.mem_append.mp member with old | new
    · exact sound.pages start p old
    · exact page start p (List.mem_singleton.mp new).symm

/-- A write. -/
theorem UplinkSound.write (sound : UplinkSound allowed first s) (relation : Relation)
    (script : List GraphMove) : UplinkSound allowed first
      (s.1 ++ [⟨.upsertRelation relation,
        answerOf ((upsertRelation relation).run graphHandler script s.2).1⟩],
      ((upsertRelation relation).run graphHandler script s.2).2.1) := by
  obtain ⟨history, landed⟩ := run_edgeInFlight (edgeInFlight_start s.2 relation) script
  generalize (upsertRelation relation).run graphHandler script s.2 = ran at history landed ⊢
  have more : writes (s.1 ++ [⟨.upsertRelation relation, answerOf ran.1⟩]) =
      writes s.1 ++ [relation] := writes_append _ _
  refine ⟨fun unwritten => ?_, ?_, fun other member => ?_, fun start page member => ?_⟩
  · rw [more] at unwritten
    exact (List.append_ne_nil_of_right_ne_nil _ (List.cons_ne_nil _ _) unwritten).elim
  · simp only [more]
    refine (sound.history.mono (fun _ none_ => none_) (fun r => ?_) fun _ none_ => none_).trans
      (history.mono (fun _ none_ => none_) (fun r => ?_) fun _ none_ => none_)
    · exact List.mem_append_left _
    · rintro rfl
      exact List.mem_append_right _ (List.mem_singleton_self _)
  · rcases List.mem_append.mp member with old | new
    · exact edgeLanded_history history (sound.landed other old)
    · obtain ⟨same, answered⟩ := UplinkEvent.mk.inj (List.mem_singleton.mp new)
      cases same
      refine landed ?_
      have ended := eq_of_heq answered
      cases outcome : ran.1 with
      | ok a => rfl
      | error e =>
          rw [outcome] at ended
          cases ended
      | pending =>
          rw [outcome] at ended
          cases ended
  · rcases List.mem_append.mp member with old | new
    · exact sound.pages start page old
    · cases List.mem_singleton.mp new

/-- What is told of an answer. -/
theorem uplinkWorld_told {graph : UplinkGraph} {c : UplinkCall} {log : List UplinkEvent}
    (answer : Option c.Answer)
    (may : ∀ a, answer = some a → ∃ move, move.answered = true ∧ graph.reply move c = a) :
    ∃ move, (uplinkWorld graph c move log).1 = answer ∧
      (uplinkWorld graph c move log).2 = log ++ [⟨c, answer⟩] := by
  cases answer with
  | none => exact ⟨⟨false, false, .error .context⟩, rfl, rfl⟩
  | some a =>
      obtain ⟨move, answered, same⟩ := may a rfl
      refine ⟨move, ?_, ?_⟩
      · simp [uplinkWorld, answered, same]
      · simp [uplinkWorld, answered, same]

/-- **A run over a graph is one over the fixed content of the first graph**, and it keeps the graph
sound. -/
theorem simulates_uplink : Prog.Simulates
    (Prog.restrict uplinkHandler fun m => ∀ page, m.move.page = .ok page → allowed page)
    (uplinkWorld first.uplinkReads) Prod.fst (UplinkSound allowed first) ReadsFirst := by
  rintro c ⟨m, fair⟩ s sound readsFirst
  have told (may : ∀ a, (m.reply s.2 c).1 = some a →
        ∃ move : UplinkMove, move.answered = true ∧ first.uplinkReads.reply move c = a)
      (kept : UplinkSound allowed first
        (s.1 ++ [⟨c, (m.reply s.2 c).1⟩], (m.reply s.2 c).2)) : ∃ move : UplinkMove,
      (uplinkHandler c m s).1 = (uplinkWorld first.uplinkReads c move s.1).1 ∧
        (uplinkHandler c m s).2.1 = (uplinkWorld first.uplinkReads c move s.1).2 ∧
        UplinkSound allowed first (uplinkHandler c m s).2 := by
    obtain ⟨move, answer, log⟩ := @uplinkWorld_told first.uplinkReads c s.1 _ may
    exact ⟨move, answer.symm, log.symm, kept⟩
  cases c with
  | contextErr =>
      refine told (fun a answered => ?_) (sound.silent rfl nofun)
      unfold UplinkTurn.reply at answered
      split_ifs at answered with here
      cases answered
      exact ⟨m.move, here, rfl⟩
  | collectPage start =>
      refine told (fun a answered => ?_) (sound.silent rfl fun start' page same => ?_)
      · unfold UplinkTurn.reply at answered
        split_ifs at answered with here
        cases answered
        exact ⟨m.move, here, rfl⟩
      · obtain ⟨same, answered⟩ := UplinkEvent.mk.inj same
        cases same
        have answered := eq_of_heq answered
        unfold UplinkTurn.reply at answered
        split_ifs at answered with here
        exact fair page (Option.some.inj answered)
  | vertexExists identity =>
      obtain ⟨same, answers⟩ := @run_vertexExists s.2 identity m.statements
      have kept := sound.silent (e := ⟨.vertexExists identity, (m.reply s.2 (.vertexExists identity)).1⟩)
        rfl nofun
      refine told (fun a answered => ?_) ?_
      · change answerOf ((vertexExists identity).run graphHandler m.statements s.2).1 = some a at answered
        rw [sound.untouched (readsFirst trivial)] at answered answers
        rcases answerOf_some answered with ⟨b, outcome, rfl⟩ | rfl
        · exact ⟨⟨true, false, .error .context⟩, rfl, congrArg some (answers b outcome).symm⟩
        · exact ⟨⟨true, true, .error .context⟩, rfl, rfl⟩
      · change UplinkSound allowed first (_, ((vertexExists identity).run graphHandler m.statements s.2).2.1)
        rw [same]
        exact kept
  | serverUplinkEndpointsValid server tor port =>
      refine told (fun a answered => ?_) (sound.silent rfl nofun)
      unfold UplinkTurn.reply at answered
      split_ifs at answered with here
      cases answered
      rw [sound.untouched (readsFirst trivial)]
      cases valid : serverUplinkEndpointsValid first m.fault server tor port with
      | error e => exact ⟨⟨true, true, .error .context⟩, rfl, rfl⟩
      | ok b =>
          refine ⟨⟨true, false, .error .context⟩, rfl, ?_⟩
          exact congrArg some (endpointsValid_of_ok valid).symm
  | upsertRelation relation =>
      refine told (fun a answered => ?_) (sound.write relation m.statements)
      rcases answerOf_some answered with ⟨b, -, rfl⟩ | rfl
      · exact ⟨⟨true, false, .error .context⟩, rfl, rfl⟩
      · exact ⟨⟨true, true, .error .context⟩, rfl, rfl⟩

end

end ServerUplink

end UnifiedInfraTopology
