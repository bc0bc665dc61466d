import UnifiedInfraTopology.Graph.Upsert

/-!
# Racing relation writes

Any number of `UpsertRelation` calls of any relations, their statements interleaved in any order.
The physical key of an edge holds a 63-bit rank, so that two relations can share one.

A call touches the edge under its own key only.  It creates its row, or refreshes a row that carries
its own relation ID, kind and source: the identity check stands between the insert, which may find
another relation, and the update (`EdgeThread`).  Nothing changes the identity of a stored edge, so
the check still holds when the update runs.

`upsertRelation_race` collects the results.
-/

namespace UnifiedInfraTopology

open Lib

/-- Two rows of one relation. -/
def EdgeRow.sameRelation (e e' : EdgeRow) : Prop :=
  e.relationId = e'.relationId ∧ e.relationKind = e'.relationKind ∧ e.sourceId = e'.sourceId

/-! ## One statement -/

/-- What a statement of a call does to the row stored under its key. -/
inductive EdgeMove (written : EdgeRow) : Option EdgeRow → Option EdgeRow → Prop where
  | same (stored : Option EdgeRow) : EdgeMove written stored stored
  | created : EdgeMove written none (some written)
  | refreshed (row : EdgeRow) (own : row.sameRelation written)
      (older : row.syncedAt ≤ written.syncedAt) :
      EdgeMove written (some row) (some (row.refreshed written.columns written.syncedAt))

/-- What a statement of a call does to the edges: a move under its key, nothing elsewhere. -/
def EdgeEffect (written : EdgeRow) (g g' : Graph) : Prop :=
  EdgeMove written (g.edges.find? written.key) (g'.edges.find? written.key) ∧
    ∀ key, key ≠ written.key → g'.edges.find? key = g.edges.find? key

theorem EdgeEffect.refl (written : EdgeRow) (g : Graph) : EdgeEffect written g g :=
  ⟨.same _, fun _ _ => rfl⟩

theorem edgeEffect_insert (written : EdgeRow) (order : List String) (g : Graph) :
    EdgeEffect written g ((Statement.insertEdge written).execute order g).2 ∧
      (((Statement.insertEdge written).execute order g).2.edges.find? written.key).isSome := by
  simp only [Statement.execute]
  cases inserted : g.edges.insert written with
  | none =>
      refine ⟨.refl written g, ?_⟩
      cases found : g.edges.find? written.key with
      | none =>
          have fresh := Table.insert_isSome.mpr found
          rw [inserted] at fresh
          cases fresh
      | some stored => simp [found]
  | some edges =>
      have absent := Table.insert_isSome.mp (by rw [inserted]; rfl)
      refine ⟨⟨?_, fun key apart => ?_⟩, ?_⟩
      · simp only [Option.getD_some, Table.find?_of_insert inserted, absent, ↓reduceIte]
        exact .created
      · simp [Table.find?_of_insert inserted, Ne.symm apart]
      · simp [Table.find?_of_insert inserted]

theorem edgeEffect_update {written row : EdgeRow} {g : Graph}
    (found : g.edges.find? written.key = some row) (own : row.sameRelation written)
    (order : List String) :
    EdgeEffect written g ((Statement.updateEdge written.key written.columns
      written.syncedAt).execute order g).2 := by
  have key := Table.key_of_find? found
  simp only [Statement.execute, found]
  refine ⟨?_, fun other apart => ?_⟩
  · simp only [Table.find?_update, found, Option.map_some]
    split
    · rename_i chosen
      simp only [Bool.and_eq_true, decide_eq_true_eq] at chosen
      exact .refreshed row own chosen.2
    · exact .same _
  · rw [Table.find?_update]
    cases elsewhere : g.edges.find? other with
    | none => rfl
    | some e =>
        have : e.key ≠ written.key := by
          rw [Table.key_of_find? elsewhere]
          exact apart
        simp [this]

/-! ## One call -/

/-- The row under the key of a call carries its relation and is not older than the call. -/
def Kept (written : EdgeRow) (stored : Option EdgeRow) : Prop :=
  ∃ row, stored = some row ∧ row.sameRelation written ∧ written.syncedAt ≤ row.syncedAt

/-- Where a call can be. -/
inductive EdgeThread (written : EdgeRow) (stored : Option EdgeRow) : GraphProg Unit → Prop where
  | start {p : GraphProg Unit} (here : p = writeEdge written) : EdgeThread written stored p
  | check {p : GraphProg Unit} (here : p = checkEdge written) : EdgeThread written stored p
  | refresh {p : GraphProg Unit} (here : p = refreshEdge written)
      (own : ∃ row, stored = some row ∧ row.sameRelation written) : EdgeThread written stored p
  | returned (kept : Kept written stored) : EdgeThread written stored (.ret ())
  | failed (e : GraphError) : EdgeThread written stored (.raise e)

theorem Kept.move {written other : EdgeRow} {stored stored' : Option EdgeRow}
    (kept : Kept written stored) (move : EdgeMove other stored stored') : Kept written stored' := by
  obtain ⟨row, found, own, fresh⟩ := kept
  cases move with
  | same => exact ⟨row, found, own, fresh⟩
  | created => cases found
  | refreshed old _ older =>
      cases found
      exact ⟨_, rfl, own, fresh.trans older⟩

theorem EdgeThread.move {written other : EdgeRow} {stored stored' : Option EdgeRow}
    {p : GraphProg Unit} (thread : EdgeThread written stored p)
    (move : EdgeMove other stored stored') : EdgeThread written stored' p := by
  cases thread with
  | start here => exact .start here
  | check here => exact .check here
  | refresh here own =>
      refine .refresh here ?_
      obtain ⟨row, found, own⟩ := own
      cases move with
      | same => exact ⟨row, found, own⟩
      | created => cases found
      | refreshed old _ older =>
          cases found
          exact ⟨_, rfl, own⟩
  | returned kept => exact .returned (kept.move move)
  | failed e => exact .failed e

/-- Every statement of a call has an `EdgeEffect`. -/
theorem EdgeThread.effect {written : EdgeRow} {g : Graph} {c : Statement}
    {k : GraphAnswer → GraphProg Unit}
    (thread : EdgeThread written (g.edges.find? written.key) (.call c k)) (m : GraphMove) :
    EdgeEffect written g (graphHandler c m g).2 := by
  rcases graphHandler_state c m g with idle | ran
  · rw [idle]
    exact .refl written g
  · rw [ran]
    cases thread with
    | start here => cases here; exact (edgeEffect_insert written m.order g).1
    | check here => cases here; exact .refl written g
    | refresh here own =>
        cases here
        obtain ⟨row, found, own⟩ := own
        exact edgeEffect_update found own m.order

/-- The row the identity check reads. -/
theorem topologySingleStringRow_fetchEdge {stored : Option EdgeRow} {identity : List String}
    (single : topologySingleStringRow
      (stored.elim [] fun e => [[e.relationId, e.relationKind, e.sourceId]]) 3 = some identity) :
    ∃ row, stored = some row ∧ identity = [row.relationId, row.relationKind, row.sourceId] := by
  cases stored with
  | none => cases single
  | some row => exact ⟨row, rfl, (Option.some.inj single).symm⟩

/-- One statement of a call leads to its next stage. -/
theorem EdgeThread.next {written : EdgeRow} {g : Graph} {c : Statement}
    {k : GraphAnswer → GraphProg Unit}
    (thread : EdgeThread written (g.edges.find? written.key) (.call c k)) {m : GraphMove}
    {answer : GraphAnswer} (answered : (graphHandler c m g).1 = some answer) :
    EdgeThread written ((graphHandler c m g).2.edges.find? written.key) (k answer) := by
  cases thread with
  | start here =>
      cases here
      rcases answer with e | rows
      · exact .failed e
      · exact .check rfl
  | check here =>
      cases here
      rcases answer with e | rows
      · exact .failed e
      · obtain ⟨read, state⟩ := graphHandler_ok answered
        rw [state]
        dsimp only [Prog.bind]
        split
        · exact .failed _
        · rename_i identity single
          split
          · exact .failed _
          · rename_i equal
            rw [not_not] at equal
            cases Except.ok.inj read
            obtain ⟨row, found, columns⟩ := topologySingleStringRow_fetchEdge single
            rw [columns] at equal
            refine .refresh rfl ⟨row, found, ?_⟩
            simpa [EdgeRow.sameRelation] using equal
  | refresh here own =>
      cases here
      rcases answer with e | rows
      · exact .failed e
      · obtain ⟨row, found, own⟩ := own
        refine .returned ?_
        rw [(graphHandler_ok answered).2]
        simp only [Statement.execute, found, Table.find?_update, Option.map_some]
        by_cases older : row.syncedAt ≤ written.syncedAt
        · refine ⟨row.refreshed written.columns written.syncedAt, ?_, own, le_rfl⟩
          simp [Table.key_of_find? found, older]
        · exact ⟨row, by simp [older], own, le_of_lt (lt_of_not_ge older)⟩

/-! ## All calls -/

section Race

variable {ι : Type} (r : ι → Relation)

/-- The assertion of one call: it was refused before its first statement, or is at a stage. -/
def EdgeAssertion (i : ι) (p : GraphProg Unit) (g : Graph) : Prop :=
  (∃ written, prepareRelation (r i) = .ok written ∧
    EdgeThread written (g.edges.find? written.key) p) ∨ ∃ e, p = .raise e

variable {r}

theorem edgeAssertion_start (i : ι) (g : Graph) :
    EdgeAssertion r i (upsertRelation (r i)) g := by
  unfold upsertRelation
  cases prepared : prepareRelation (r i) with
  | error e => exact Or.inr ⟨e, rfl⟩
  | ok written => exact Or.inl ⟨written, prepared, .start rfl⟩

theorem edgeAssertion_call {i : ι} {c : Statement} {k : GraphAnswer → GraphProg Unit} {g : Graph}
    (thread : EdgeAssertion r i (.call c k) g) (m : GraphMove) :
    ∃ written, prepareRelation (r i) = .ok written ∧ EdgeEffect written g (graphHandler c m g).2 := by
  rcases thread with ⟨written, ok, thread⟩ | ⟨e, refused⟩
  · exact ⟨written, ok, thread.effect m⟩
  · cases refused

theorem EdgeAssertion.effect {i : ι} {p : GraphProg Unit} {g g' : Graph} {other : EdgeRow}
    (assertion : EdgeAssertion r i p g) (effect : EdgeEffect other g g') :
    EdgeAssertion r i p g' := by
  rcases assertion with ⟨written, ok, thread⟩ | refused
  · refine Or.inl ⟨written, ok, ?_⟩
    by_cases shared : written.key = other.key
    · rw [shared] at thread ⊢
      exact thread.move effect.1
    · rw [effect.2 _ shared]
      exact thread
  · exact Or.inr refused

/-- A call that has returned finds its relation at its key. -/
theorem EdgeAssertion.kept {i : ι} {g : Graph} (assertion : EdgeAssertion r i (.ret ()) g) :
    ∃ written, prepareRelation (r i) = .ok written ∧ Kept written (g.edges.find? written.key) := by
  rcases assertion with ⟨written, ok, thread⟩ | ⟨e, refused⟩
  · refine ⟨written, ok, ?_⟩
    cases thread with
    | returned kept => exact kept
    | start here => cases here
    | check here => cases here
    | refresh here own => cases here
  · cases refused

/-- A call that has come to its end has returned or failed. -/
theorem EdgeAssertion.finished {i : ι} {p : GraphProg Unit} {g : Graph}
    (assertion : EdgeAssertion r i p g) (finished : p.Finished) :
    p = .ret () ∨ ∃ e, p = .raise e := by
  rcases assertion with ⟨written, ok, thread⟩ | refused
  · cases thread with
    | returned => exact Or.inl rfl
    | failed e => exact Or.inr ⟨e, rfl⟩
    | start here => subst here; exact finished.elim
    | check here => subst here; exact finished.elim
    | refresh here own => subst here; exact finished.elim
  · exact Or.inr refused

variable [DecidableEq ι]

/-- A property of the row under one key that every `EdgeMove` keeps holds throughout, and every call
stays at one of its stages. -/
theorem edge_interleave (key : EdgeKey) {Q : Option EdgeRow → Prop}
    (keeps : ∀ written stored stored', EdgeMove written stored stored' → Q stored → Q stored')
    (schedule : List (ι × GraphMove)) {ps : ι → GraphProg Unit} {g : Graph}
    (start : Q (g.edges.find? key)) (threads : ∀ i, EdgeAssertion r i (ps i) g) :
    Q ((Prog.interleave graphHandler schedule ps g).2.edges.find? key) ∧
      ∀ i, EdgeAssertion r i ((Prog.interleave graphHandler schedule ps g).1 i)
        (Prog.interleave graphHandler schedule ps g).2 := by
  refine Prog.interleave_invariant (G := fun g => Q (g.edges.find? key)) (T := EdgeAssertion r)
    ?_ ?_ schedule start threads
  · intro i c k m g held thread
    obtain ⟨written, ok, effect⟩ := edgeAssertion_call thread m
    refine ⟨?_, fun silent => ?_, fun answer answered => ?_⟩
    · change Q ((graphHandler c m g).2.edges.find? key)
      by_cases here : key = written.key
      · subst here
        exact keeps written _ _ effect.1 held
      · rw [effect.2 key here]
        exact held
    · obtain ⟨answer, answered⟩ := graphHandler_answers c m g
      rw [silent] at answered
      cases answered
    · rcases thread with ⟨written', ok', thread⟩ | ⟨e, refused⟩
      · exact Or.inl ⟨written', ok', thread.next answered⟩
      · cases refused
  · intro i j _ c k m g _ thread p assertion
    obtain ⟨other, ok, effect⟩ := edgeAssertion_call thread m
    exact assertion.effect effect

/-- One more step of a call has an `EdgeEffect`. -/
theorem edgeEffect_step {ps : ι → GraphProg Unit} {g : Graph} {i : ι} {written : EdgeRow}
    (ok : prepareRelation (r i) = .ok written) (assertion : EdgeAssertion r i (ps i) g)
    (m : GraphMove) :
    EdgeEffect written g (Prog.interleave graphHandler [(i, m)] ps g).2 := by
  cases shape : ps i with
  | call c k =>
      rw [shape] at assertion
      obtain ⟨written', ok', effect⟩ := edgeAssertion_call assertion m
      cases ok.symm.trans ok'
      obtain ⟨answer, -, step⟩ := stepOnce_statement c k m g
      simp only [Prog.interleave, shape, step]
      exact effect
  | _ =>
      have idle : (Prog.interleave graphHandler [(i, m)] ps g).2 = g := by
        simp [Prog.interleave, shape, Prog.stepOnce]
      rw [idle]
      exact .refl written g

/-- A call issues at most three statements. -/
theorem within_upsertRelation (relation : Relation) : (upsertRelation relation).Within 3 := by
  unfold upsertRelation
  split
  · trivial
  · intro inserted
    rcases inserted with e | rows
    · trivial
    · intro fetched
      rcases fetched with e | rows
      · trivial
      · dsimp only [Prog.bind]
        split
        · trivial
        · split
          · trivial
          · intro updated
            rcases updated with e | rows <;> trivial

end Race

/-! ## The race -/

/-- A later state of a stored edge: the same relation and creation time, and not older. -/
def LaterEdge (row : EdgeRow) (stored : Option EdgeRow) : Prop :=
  ∃ row', stored = some row' ∧ row'.sameRelation row ∧ row'.createdAt = row.createdAt ∧
    row.syncedAt ≤ row'.syncedAt

theorem LaterEdge.move {row written : EdgeRow} {stored stored' : Option EdgeRow}
    (later : LaterEdge row stored) (move : EdgeMove written stored stored') :
    LaterEdge row stored' := by
  obtain ⟨row', found, relation, created, synced⟩ := later
  cases move with
  | same => exact ⟨row', found, relation, created, synced⟩
  | created => cases found
  | refreshed old _ older =>
      cases found
      exact ⟨_, rfl, relation, created, synced.trans older⟩

/-- What holds of the edges while some relations are written. -/
structure EdgeRace {ι : Type} [DecidableEq ι] (r : ι → Relation) (g : Graph)
    (schedule : List (ι × GraphMove)) : Prop where
  /-- The rank is a positive 63-bit number. -/
  rank : ∀ i written, prepareRelation (r i) = .ok written →
    1 ≤ written.rank.toInt ∧ written.rank.toInt ≤ 2 ^ 63 - 1
  /-- A call that has returned nil finds its own relation at its key, not older than itself. -/
  returned : ∀ i,
    (Prog.interleave graphHandler schedule (fun i => upsertRelation (r i)) g).1 i = .ret () →
    ∃ written, prepareRelation (r i) = .ok written ∧
      Kept written ((Prog.interleave graphHandler schedule (fun i => upsertRelation (r i))
        g).2.edges.find? written.key)
  /-- A stored edge stays, with its relation and its creation time. -/
  fixed : ∀ key more row,
    (Prog.interleave graphHandler schedule (fun i => upsertRelation (r i)) g).2.edges.find? key =
      some row →
    LaterEdge row ((Prog.interleave graphHandler (schedule ++ more)
      (fun i => upsertRelation (r i)) g).2.edges.find? key)
  /-- A call whose key holds another relation never returns nil, has failed once its statements are
  answered, and leaves that edge as it is. -/
  collision : ∀ i written row, prepareRelation (r i) = .ok written →
    (Prog.interleave graphHandler schedule (fun i => upsertRelation (r i)) g).2.edges.find?
      written.key = some row →
    row.relationId ≠ written.relationId →
    ∀ more,
      (Prog.interleave graphHandler (schedule ++ more) (fun i => upsertRelation (r i)) g).1 i ≠
        .ret () ∧
      (3 ≤ ((schedule ++ more).filter fun step => decide (step.1 = i)).length →
        ∃ e, (Prog.interleave graphHandler (schedule ++ more) (fun i => upsertRelation (r i))
          g).1 i = .raise e) ∧
      ∀ m, (Prog.interleave graphHandler (schedule ++ more ++ [(i, m)])
          (fun i => upsertRelation (r i)) g).2.edges.find? written.key =
        (Prog.interleave graphHandler (schedule ++ more) (fun i => upsertRelation (r i))
          g).2.edges.find? written.key

section

variable {ι : Type} [DecidableEq ι] {r : ι → Relation} {g : Graph}

/-- Every call stays at one of its stages. -/
theorem edgeAssertion_interleave (schedule : List (ι × GraphMove)) (i : ι) :
    EdgeAssertion r i
      ((Prog.interleave graphHandler schedule (fun i => upsertRelation (r i)) g).1 i)
      (Prog.interleave graphHandler schedule (fun i => upsertRelation (r i)) g).2 :=
  (edge_interleave ("", .spatial, "", 0) (Q := fun _ => True) (fun _ _ _ _ _ => trivial) schedule
    trivial fun i => edgeAssertion_start i g).2 i

theorem laterEdge_interleave {key : EdgeKey} {schedule : List (ι × GraphMove)} {row : EdgeRow}
    (found : (Prog.interleave graphHandler schedule (fun i => upsertRelation (r i))
      g).2.edges.find? key = some row) (more : List (ι × GraphMove)) :
    LaterEdge row ((Prog.interleave graphHandler (schedule ++ more)
      (fun i => upsertRelation (r i)) g).2.edges.find? key) := by
  rw [Prog.interleave_append]
  exact (edge_interleave key (Q := LaterEdge row) (fun _ _ _ move later => later.move move) more
    ⟨row, found, ⟨rfl, rfl, rfl⟩, rfl, le_rfl⟩ fun i => edgeAssertion_interleave schedule i).1

/-- **Racing relation writes.**  Calls of any relations, in any interleaving and stopped anywhere,
never turn an edge into an edge of another relation. -/
theorem upsertRelation_race (r : ι → Relation) (g : Graph) (schedule : List (ι × GraphMove)) :
    EdgeRace r g schedule := by
  refine ⟨?_, ?_, ?_, ?_⟩
  · intro i written ok
    obtain ⟨-, -, -, ranked, -⟩ := prepareRelation_ok ok
    exact rank_range ranked
  · intro i returned
    have assertion := edgeAssertion_interleave (r := r) (g := g) schedule i
    rw [returned] at assertion
    exact assertion.kept
  · intro key more row found
    exact laterEdge_interleave found more
  · intro i written row ok found foreign more
    obtain ⟨row', found', ⟨related, -, -⟩, -, -⟩ := laterEdge_interleave found more
    have assertion := edgeAssertion_interleave (r := r) (g := g) (schedule ++ more) i
    have unfinished : (Prog.interleave graphHandler (schedule ++ more)
        (fun i => upsertRelation (r i)) g).1 i ≠ .ret () := by
      intro returned
      rw [returned] at assertion
      obtain ⟨written', ok', row'', found'', own, -⟩ := assertion.kept
      cases ok.symm.trans ok'
      cases found'.symm.trans found''
      exact foreign (related.symm.trans own.1)
    refine ⟨unfinished, fun scheduled => ?_, fun m => ?_⟩
    · let ps : ι → GraphProg Unit := fun i => upsertRelation (r i)
      have bound : (ps i).Within 3 := within_upsertRelation (r i)
      have finished := Prog.finished_of_scheduled (H := graphHandler) (s := g) bound scheduled
      exact (assertion.finished finished).resolve_left unfinished
    · rw [Prog.interleave_append]
      have effect := edgeEffect_step ok assertion m
      have move := effect.1
      rw [found'] at move ⊢
      generalize (Prog.interleave graphHandler [(i, m)] _ _).2.edges.find? written.key = stored
        at move ⊢
      cases move with
      | same => rfl
      | refreshed _ own _ => exact (foreign (related.symm.trans own.1)).elim

end

end UnifiedInfraTopology
