import UnifiedInfraTopology.Uplink.Passes

/-!
# The writes of `ServerUplinkWorker.Run`

The world has a graph of fixed content; the source and every failure are up to a script: a move says
whether its call is answered, whether it fails, and the page that a read of the source gets.  The state
is the log of all calls.

* `ensures_collect`, `ensures_checks`, `ensures_writes` say what the three phases leave in the log.
* `issues_run` says what the log contains whenever a relation is written.
* `run_writes` is the result for whole executions.
-/

namespace UnifiedInfraTopology

open Lib

/-- The content of the graph, as the worker reads it. -/
structure UplinkGraph where
  vertexExists : EntityIdentity → Bool
  endpointsValid : (server tor port : EntityIdentity) → Bool

structure UplinkMove where
  answered : Bool
  fails : Bool
  page : Except CmdbError UplinkPage

structure UplinkEvent where
  call : UplinkCall
  answer : Option call.Answer

def UplinkGraph.reply (graph : UplinkGraph) (move : UplinkMove) : (c : UplinkCall) → c.Answer
  | .contextErr => move.fails
  | .collectPage _ => move.page
  | .vertexExists identity => if move.fails then none else some (graph.vertexExists identity)
  | .serverUplinkEndpointsValid server tor port =>
      if move.fails then none else some (graph.endpointsValid server tor port)
  | .upsertRelation _ => if move.fails then none else some ()

/-- Every call is logged, with its answer. -/
def uplinkWorld (graph : UplinkGraph) :
    Handler UplinkCall UplinkCall.Answer UplinkMove (List UplinkEvent) := fun c move log =>
  let answer := if move.answered then some (graph.reply move c) else none
  (answer, log ++ [⟨c, answer⟩])

namespace ServerUplink

/-! ## Logs -/

def succeeds : (c : UplinkCall) → c.Answer → Bool
  | .contextErr, done => !done
  | .collectPage _, page => page.isOk
  | .vertexExists _, answer => Option.isSome answer
  | .serverUplinkEndpointsValid _ _ _, answer => Option.isSome answer
  | .upsertRelation _, answer => Option.isSome answer

/-- The call was answered, and not with an error. -/
def Succeeded (e : UplinkEvent) : Prop := ∃ a, e.answer = some a ∧ succeeds e.call a = true

/-- The relation that a call is to write. -/
def written (e : UplinkEvent) : Option Relation :=
  match e.call with
  | .upsertRelation relation => some relation
  | _ => none

def writes (log : List UplinkEvent) : List Relation := log.filterMap written

/-- The events of a pass that reads some pages, from a start on. -/
def passEvents : Int → List UplinkPage → List UplinkEvent
  | _, [] => []
  | start, page :: pages =>
      ⟨.collectPage start, some (.ok page)⟩ :: ⟨.contextErr, some false⟩ ::
        passEvents page.nextOffset pages

/-- Some pages are a whole pass, from which `pass` results. -/
structure WholePass (retain : Bool) (pages : List UplinkPage) (pass : Pass) : Prop where
  complete : ∃ earlier last, pages = earlier ++ [last] ∧ last.done = true ∧
    ∀ page ∈ earlier, page.done = false
  accepted : pages.foldlM (acceptPage retain) Pass.start_ = .ok pass

/-- The vertices that a link needs: its server, its interface and its ToR. -/
def endpoints (source : Source) (c : ServerUplinkCandidate) : List EntityIdentity :=
  [c.identity.origin, c.identity.target, torIdentity source c.tor]

def existsEvent (graph : UplinkGraph) (endpoint : EntityIdentity) : UplinkEvent :=
  ⟨.vertexExists endpoint, some (some (graph.vertexExists endpoint))⟩

def ownershipEvent (graph : UplinkGraph) (source : Source) (c : ServerUplinkCandidate) :
    UplinkEvent :=
  ⟨.serverUplinkEndpointsValid c.identity.origin (torIdentity source c.tor) c.identity.target,
    some (some (graph.endpointsValid c.identity.origin (torIdentity source c.tor)
      c.identity.target))⟩

/-- The vertices of a link exist, and its server and its ToR fit its interface. -/
def Valid (graph : UplinkGraph) (source : Source) (c : ServerUplinkCandidate) : Bool :=
  (endpoints source c).all graph.vertexExists &&
    graph.endpointsValid c.identity.origin (torIdentity source c.tor) c.identity.target

/-- The graph was read for a link. -/
def EndpointsRead (graph : UplinkGraph) (source : Source) (log : List UplinkEvent)
    (c : ServerUplinkCandidate) : Prop :=
  (∀ endpoint ∈ endpoints source c, existsEvent graph endpoint ∈ log) ∧
    ((endpoints source c).all graph.vertexExists = true → ownershipEvent graph source c ∈ log)

/-- A log in which a whole pass and all reads for its links have succeeded. -/
structure AllRead (graph : UplinkGraph) (source : Source) (log : List UplinkEvent)
    (pages : List UplinkPage) (pass : Pass) : Prop where
  whole : WholePass true pages pass
  first : ∃ rest, log = ⟨.contextErr, some false⟩ :: passEvents 0 pages ++ rest ∧
    ∀ c ∈ distinctLinks pages, EndpointsRead graph source rest c
  succeeded : ∀ e ∈ log, Succeeded e
  single : ∀ a ∈ linksOf pages, ∀ b ∈ linksOf pages, portOf a = portOf b → a.tor = b.tor

/-- The log when a relation is written. -/
def MayWrite (graph : UplinkGraph) (source : Source) (snapshot : Time) (log : List UplinkEvent)
    (relation : Relation) : Prop :=
  ∃ pages pass, AllRead graph source log pages pass ∧
    (∃ c ∈ distinctLinks pages, Valid graph source c = true ∧
      relation = relationOf snapshot c.identity) ∧
    ∀ earlier ∈ writes log, earlier.identity.id ≠ relation.identity.id

/-- The log when the worker returns. -/
def Finished (graph : UplinkGraph) (source : Source) (snapshot : Time) (log : List UplinkEvent)
    (result : ServerUplinkResult) : Prop :=
  ∃ before pages pass again second, AllRead graph source before pages pass ∧
    log = before ++ passEvents 0 again ++ [⟨.contextErr, some false⟩] ∧
    WholePass false again second ∧
    second.collection.digest = pass.collection.digest ∧
    second.collection.servers = pass.collection.servers ∧
    second.collection.skipped = pass.collection.skipped ∧
    (∀ e ∈ log, Succeeded e) ∧
    writes log = ((distinctLinks pages).filter (Valid graph source)).map
      (fun c => relationOf snapshot c.identity) ∧
    result.edges = (writes log).length ∧
    result.edges + result.missingEndpoints = ((linksOf pages).map relationId).dedup.length ∧
    result.servers = pass.collection.servers ∧
    result.skipped = (pages.map (·.skipped)).sum + result.missingEndpoints

theorem writes_append (log more : List UplinkEvent) : writes (log ++ more) = writes log ++ writes more :=
  List.filterMap_append

theorem passEvents_append (start : Int) (pages : List UplinkPage) (page : UplinkPage) :
    passEvents start (pages ++ [page]) = passEvents start pages ++
      [⟨.collectPage (pages.foldl (fun _ page => page.nextOffset) start), some (.ok page)⟩,
        ⟨.contextErr, some false⟩] := by
  induction pages generalizing start with
  | nil => rfl
  | cons first pages ih =>
      rw [List.cons_append, passEvents, ih first.nextOffset]
      rfl

theorem writes_passEvents (start : Int) (pages : List UplinkPage) :
    writes (passEvents start pages) = [] := by
  induction pages generalizing start with
  | nil => rfl
  | cons page pages ih => exact ih page.nextOffset

theorem succeeded_passEvents {start : Int} {pages : List UplinkPage} :
    ∀ e ∈ passEvents start pages, Succeeded e := by
  induction pages generalizing start with
  | nil => exact fun e member => (List.not_mem_nil member).elim
  | cons page pages ih =>
      intro e member
      rw [passEvents, List.mem_cons, List.mem_cons] at member
      rcases member with rfl | rfl | later
      · exact ⟨_, rfl, rfl⟩
      · exact ⟨_, rfl, rfl⟩
      · exact ih e later

/-! ## Calls -/

section Calls

variable {graph : UplinkGraph} {ε α : Type} {log : List UplinkEvent}

/-- A call that is answered: the answer, and the log after it. -/
theorem answered_uplinkWorld {c : UplinkCall} {move : UplinkMove} {r : c.Answer}
    (answered : (uplinkWorld graph c move log).1 = some r) :
    r = graph.reply move c ∧
      (uplinkWorld graph c move log).2 = log ++ [⟨c, some (graph.reply move c)⟩] := by
  unfold uplinkWorld at answered ⊢
  split at answered
  · rename_i answers
    cases answered
    rw [if_pos answers]
    exact ⟨rfl, rfl⟩
  · cases answered

theorem ensures_ask {c : UplinkCall} {k : c.Answer → UplinkRun ε α}
    {Q : α → List UplinkEvent → Prop}
    (next : ∀ move, Prog.Ensures (uplinkWorld graph) (k (graph.reply move c)) Q
      (log ++ [⟨c, some (graph.reply move c)⟩])) :
    Prog.Ensures (uplinkWorld graph) ((Prog.perform c).bind k) Q log := by
  refine Prog.contract_perform fun move r _ answered => ?_
  obtain ⟨rfl, after⟩ := answered_uplinkWorld answered
  rw [after]
  exact next move

theorem issues_ask {J : UplinkCall → List UplinkEvent → Prop} {c : UplinkCall}
    {k : c.Answer → UplinkRun ε α} (issued : J c log)
    (next : ∀ move, (k (graph.reply move c)).Issues (uplinkWorld graph) J
      (log ++ [⟨c, some (graph.reply move c)⟩])) :
    ((Prog.perform c).bind k).Issues (uplinkWorld graph) J log := by
  refine Prog.issues_perform issued fun move r answered => ?_
  obtain ⟨rfl, after⟩ := answered_uplinkWorld answered
  rw [after]
  exact next move

/-- The check of the context: a program that goes on has seen it succeed. -/
theorem ensures_context {e : ε} {k : UplinkRun ε α} {Q : α → List UplinkEvent → Prop}
    (next : Prog.Ensures (uplinkWorld graph) k Q (log ++ [⟨.contextErr, some false⟩])) :
    Prog.Ensures (uplinkWorld graph) ((Prog.perform .contextErr).bind fun done =>
      if done = true then .raise e else k) Q log := by
  refine ensures_ask fun move => ?_
  unfold UplinkGraph.reply
  cases failed : move.fails with
  | true => exact Prog.contract_raise trivial
  | false => exact next

theorem ensures_vertexExists {endpoint : EntityIdentity} {k : Option Bool → UplinkRun ε α}
    {Q : α → List UplinkEvent → Prop}
    (failed : ∀ log, Prog.Ensures (uplinkWorld graph) (k none) Q log)
    (read : Prog.Ensures (uplinkWorld graph) (k (some (graph.vertexExists endpoint))) Q
      (log ++ [existsEvent graph endpoint])) :
    Prog.Ensures (uplinkWorld graph) ((Prog.perform (.vertexExists endpoint)).bind k) Q log := by
  refine ensures_ask fun move => ?_
  unfold UplinkGraph.reply
  cases move.fails with
  | true => exact failed _
  | false => exact read

theorem ensures_endpointsValid {source : Source} {c : ServerUplinkCandidate}
    {k : Option Bool → UplinkRun ε α} {Q : α → List UplinkEvent → Prop}
    (failed : ∀ log, Prog.Ensures (uplinkWorld graph) (k none) Q log)
    (read : Prog.Ensures (uplinkWorld graph) (k (some (graph.endpointsValid c.identity.origin
      (torIdentity source c.tor) c.identity.target))) Q (log ++ [ownershipEvent graph source c])) :
    Prog.Ensures (uplinkWorld graph) ((Prog.perform (.serverUplinkEndpointsValid c.identity.origin
      (torIdentity source c.tor) c.identity.target)).bind k) Q log := by
  refine ensures_ask fun move => ?_
  unfold UplinkGraph.reply
  cases move.fails with
  | true => exact failed _
  | false => exact read

theorem ensures_upsertRelation {relation : Relation} {k : Option Unit → UplinkRun ε α}
    {Q : α → List UplinkEvent → Prop}
    (failed : ∀ log, Prog.Ensures (uplinkWorld graph) (k none) Q log)
    (wrote : Prog.Ensures (uplinkWorld graph) (k (some ())) Q
      (log ++ [⟨.upsertRelation relation, some (some ())⟩])) :
    Prog.Ensures (uplinkWorld graph) ((Prog.perform (.upsertRelation relation)).bind k) Q log := by
  refine ensures_ask fun move => ?_
  unfold UplinkGraph.reply
  cases move.fails with
  | true => exact failed _
  | false => exact wrote

end Calls

/-! ## A pass -/

section Collect

variable {graph : UplinkGraph} {retain : Bool} {base : List UplinkEvent}

/-- One page. -/
theorem ensures_collectNext {pages : List UplinkPage} {pass : Pass}
    (accepted : pages.foldlM (acceptPage retain) Pass.start_ = .ok pass) :
    Prog.Ensures (uplinkWorld graph) (collectNext retain pass)
      (fun result log => ∃ page pass', log = base ++ passEvents 0 (pages ++ [page]) ∧
        (pages ++ [page]).foldlM (acceptPage retain) Pass.start_ = .ok pass' ∧
        match result with
        | .inl next => next = pass' ∧ page.done = false
        | .inr collection => collection = pass'.collection ∧ page.done = true)
      (base ++ passEvents 0 pages) := by
  unfold collectNext
  refine ensures_ask fun move => ?_
  unfold UplinkGraph.reply
  cases answer : move.page with
  | error e => exact Prog.contract_raise trivial
  | ok page =>
      cases taken : acceptPage retain pass page with
      | error failure =>
          simp only [taken]
          exact Prog.contract_raise trivial
      | ok pass' =>
          simp only [taken]
          refine ensures_context ?_
          have whole : (pages ++ [page]).foldlM (acceptPage retain) Pass.start_ = .ok pass' :=
            foldlM_concat_ok accepted taken
          have events : base ++ passEvents 0 pages ++ [⟨.collectPage pass.start, some (.ok page)⟩] ++
              [⟨.contextErr, some false⟩] = base ++ passEvents 0 (pages ++ [page]) := by
            rw [passEvents_append, (passHolds accepted).start_, List.append_assoc, List.append_assoc]
            rfl
          rw [events]
          cases ended : page.done with
          | true => exact ⟨page, pass', rfl, whole, rfl, ended⟩
          | false => exact ⟨page, pass', rfl, whole, rfl, ended⟩

/-- A pass that returns has read a whole pass. -/
theorem ensures_collect (n : Nat) :
    Prog.Ensures (uplinkWorld graph) (collect retain n)
      (fun collection log => ∃ pages pass, log = base ++ passEvents 0 pages ∧
        WholePass retain pages pass ∧ collection = pass.collection) base := by
  refine Prog.contract_loop (fun pass log => ∃ pages, log = base ++ passEvents 0 pages ∧
      pages.foldlM (acceptPage retain) Pass.start_ = .ok pass ∧ ∀ page ∈ pages, page.done = false)
    ?_ n .start_ ⟨[], (List.append_nil base).symm, rfl, fun _ member => (List.not_mem_nil member).elim⟩
  rintro pass log ⟨pages, rfl, accepted, unfinished⟩
  refine Prog.contract_mono (ensures_collectNext accepted) ?_
  rintro result log ⟨page, pass', rfl, whole, ending⟩
  cases result with
  | inl next =>
      obtain ⟨rfl, more⟩ := ending
      refine ⟨pages ++ [page], rfl, whole, fun p member => ?_⟩
      rcases List.mem_append.mp member with earlier | last
      · exact unfinished p earlier
      · rw [List.mem_singleton.mp last]
        exact more
  | inr collection =>
      obtain ⟨rfl, ended⟩ := ending
      exact ⟨pages ++ [page], pass', rfl, ⟨⟨pages, page, rfl, ended, unfinished⟩, whole⟩, rfl⟩

end Collect

/-! ## The reads of the graph -/

section Reads

variable {graph : UplinkGraph} {source : Source} {base reads : List UplinkEvent} {checks : Checks}

/-- Some events are successful reads; the known vertices are among them. -/
structure Memo (graph : UplinkGraph) (checks : Checks) (reads : List UplinkEvent) : Prop where
  succeeded : ∀ e ∈ reads, Succeeded e
  quiet : writes reads = []
  known : ∀ endpoint ∈ checks.checked,
    checks.existing.find? endpoint = some (endpoint, graph.vertexExists endpoint) ∧
      existsEvent graph endpoint ∈ reads

theorem Memo.event (memo : Memo graph checks reads) {e : UplinkEvent} (ok : Succeeded e)
    (silent : written e = none) : Memo graph checks (reads ++ [e]) where
  succeeded := by
    intro e' member
    rcases List.mem_append.mp member with earlier | last
    · exact memo.succeeded e' earlier
    · rw [List.mem_singleton.mp last]
      exact ok
  quiet := by
    rw [writes_append, memo.quiet, List.nil_append, writes, List.filterMap_cons, silent]
    rfl
  known := fun endpoint checked =>
    ⟨(memo.known endpoint checked).1, List.mem_append_left _ (memo.known endpoint checked).2⟩

/-- A vertex that is read for the first time. -/
theorem Memo.vertex (memo : Memo graph checks reads) (endpoint : EntityIdentity) :
    Memo graph { checks with
      checked := endpoint :: checks.checked
      existing := checks.existing.put (endpoint, graph.vertexExists endpoint) }
      (reads ++ [existsEvent graph endpoint]) where
  succeeded := (memo.event ⟨_, rfl, rfl⟩ rfl).succeeded
  quiet := (memo.event ⟨_, rfl, rfl⟩ rfl).quiet
  known := by
    intro other checked
    rw [Table.find?_put]
    rcases List.mem_cons.mp checked with rfl | earlier
    · rw [if_pos rfl]
      exact ⟨rfl, List.mem_append_right _ (List.mem_singleton_self _)⟩
    · obtain ⟨found, read⟩ := memo.known other earlier
      refine ⟨?_, List.mem_append_left _ read⟩
      split
      · rename_i same
        simp only at same
        rw [same]
      · exact found

/-- The endpoints `done` of a link were looked up, from `checks` on. -/
structure LookedUp (graph : UplinkGraph) (base reads : List UplinkEvent) (checks : Checks)
    (done : List EntityIdentity) (after : Checks × Bool) (log : List UplinkEvent) : Prop where
  memo : ∃ more, log = base ++ (reads ++ more) ∧ Memo graph after.1 (reads ++ more)
  checked : ∀ endpoint ∈ done, endpoint ∈ after.1.checked
  valid : after.1.valid = checks.valid
  result : after.1.result = checks.result
  missing : after.2 = !done.all graph.vertexExists

/-- The flag after an endpoint that is known. -/
theorem LookedUp.flag {done : List EntityIdentity} {endpoint : EntityIdentity} {missing : Bool}
    {after : Checks} (memo : Memo graph after reads) (checked : endpoint ∈ after.checked)
    (sofar : missing = !done.all graph.vertexExists) :
    (missing || !(after.existing.find? endpoint).any (·.2)) =
      !(done ++ [endpoint]).all graph.vertexExists := by
  rw [(memo.known endpoint checked).1, sofar, List.all_append]
  simp

/-- One endpoint. -/
theorem ensures_checkEndpoint {done : List EntityIdentity} {endpoint : EntityIdentity}
    {before : Checks × Bool} {log : List UplinkEvent}
    (looked : LookedUp graph base reads checks done before log) :
    Prog.Ensures (uplinkWorld graph) (checkEndpoint before endpoint)
      (LookedUp graph base reads checks (done ++ [endpoint])) log := by
  obtain ⟨before, missing⟩ := before
  obtain ⟨⟨more, rfl, memo⟩, checked, valid, result, missing_⟩ := looked
  unfold checkEndpoint
  by_cases known : endpoint ∈ before.checked
  · simp only [known, if_true]
    refine ⟨⟨more, rfl, memo⟩, fun e member => ?_, valid, result, LookedUp.flag memo known missing_⟩
    rcases List.mem_append.mp member with earlier | last
    · exact checked e earlier
    · rwa [List.mem_singleton.mp last]
  · simp only [known, if_false]
    refine ensures_vertexExists (fun log => Prog.contract_raise trivial) ?_
    have next := memo.vertex endpoint
    refine ⟨⟨more ++ [existsEvent graph endpoint], ?_, ?_⟩, fun e member => ?_, valid, result,
      LookedUp.flag next List.mem_cons_self missing_⟩
    · rw [List.append_assoc, List.append_assoc]
    · rwa [← List.append_assoc]
    · rcases List.mem_append.mp member with earlier | last
      · exact List.mem_cons_of_mem _ (checked e earlier)
      · rw [List.mem_singleton.mp last]
        exact List.mem_cons_self

/-- The vertices of a link. -/
theorem ensures_endpoints {c : ServerUplinkCandidate} (memo : Memo graph checks reads) :
    Prog.Ensures (uplinkWorld graph)
      ([c.identity.origin, c.identity.target, torIdentity source c.tor].foldlM checkEndpoint
        (checks, false))
      (LookedUp graph base reads checks (endpoints source c)) (base ++ reads) :=
  Prog.contract_foldlM (LookedUp graph base reads checks)
    (fun _ _ _ _ _ _ looked => ensures_checkEndpoint looked) (checks, false)
    ⟨⟨[], by rw [List.append_nil], by rwa [List.append_nil]⟩,
      fun _ member => (List.not_mem_nil member).elim, rfl, rfl, rfl⟩

/-- A result after some links could not be written. -/
def missed (result : ServerUplinkResult) (count : Nat) : ServerUplinkResult :=
  { result with
    skipped := result.skipped + count
    missingEndpoints := result.missingEndpoints + count }

/-- The links `done` were checked. -/
structure Checked (graph : UplinkGraph) (source : Source) (base : List UplinkEvent)
    (result : ServerUplinkResult) (done : List ServerUplinkCandidate) (checks : Checks)
    (log : List UplinkEvent) : Prop where
  memo : ∃ reads, log = base ++ reads ∧ Memo graph checks reads ∧
    ∀ c ∈ done, EndpointsRead graph source reads c
  valid : checks.valid = (done.filter (Valid graph source)).map (·.identity)
  result : checks.result = missed result (done.countP fun c => !Valid graph source c)

/-- A link that cannot be written. -/
theorem Checked.miss {result : ServerUplinkResult} {done : List ServerUplinkCandidate}
    {c : ServerUplinkCandidate} (memo : Memo graph checks reads)
    (read : ∀ c' ∈ done ++ [c], EndpointsRead graph source reads c')
    (valid : checks.valid = (done.filter (Valid graph source)).map (·.identity))
    (counted : checks.result = missed result (done.countP fun c => !Valid graph source c))
    (refused : Valid graph source c = false) :
    Checked graph source base result (done ++ [c]) checks.miss (base ++ reads) where
  memo := ⟨reads, rfl, ⟨memo.succeeded, memo.quiet, memo.known⟩, read⟩
  valid := by
    rw [List.filter_append, List.filter_singleton, refused, cond_false, List.append_nil]
    exact valid
  result := by
    unfold Checks.miss
    rw [counted, List.countP_append, List.countP_singleton, refused]
    simp [missed, Int.add_assoc]

/-- A link that can be written. -/
theorem Checked.admit {result : ServerUplinkResult} {done : List ServerUplinkCandidate}
    {c : ServerUplinkCandidate} (memo : Memo graph checks reads)
    (read : ∀ c' ∈ done ++ [c], EndpointsRead graph source reads c')
    (valid : checks.valid = (done.filter (Valid graph source)).map (·.identity))
    (counted : checks.result = missed result (done.countP fun c => !Valid graph source c))
    (accepted : Valid graph source c = true) :
    Checked graph source base result (done ++ [c])
      { checks with valid := checks.valid ++ [c.identity] } (base ++ reads) where
  memo := ⟨reads, rfl, ⟨memo.succeeded, memo.quiet, memo.known⟩, read⟩
  valid := by
    rw [List.filter_append, List.filter_singleton, accepted, List.map_append, ← valid]
    rfl
  result := by
    rw [List.countP_append, List.countP_singleton, accepted]
    exact counted

/-- What was read for some links stays read. -/
theorem EndpointsRead.mono {c : ServerUplinkCandidate} {more : List UplinkEvent}
    (read : EndpointsRead graph source reads c) (sub : reads ⊆ more) :
    EndpointsRead graph source more c :=
  ⟨fun endpoint member => sub (read.1 endpoint member), fun all => sub (read.2 all)⟩

/-- One link. -/
theorem ensures_checkCandidate {result : ServerUplinkResult} {done : List ServerUplinkCandidate}
    {c : ServerUplinkCandidate} {log : List UplinkEvent}
    (sofar : Checked graph source base result done checks log) :
    Prog.Ensures (uplinkWorld graph) (checkCandidate source checks c)
      (Checked graph source base result (done ++ [c])) log := by
  obtain ⟨⟨reads, rfl, memo, read⟩, valid, counted⟩ := sofar
  unfold checkCandidate
  refine ensures_context ?_
  have started := memo.event (e := ⟨.contextErr, some false⟩) ⟨_, rfl, rfl⟩ rfl
  rw [List.append_assoc]
  refine Prog.contract_bind (Prog.contract_mono (ensures_endpoints started) ?_)
  rintro ⟨after, missing⟩ log ⟨⟨more, rfl, known⟩, checked, sameValid, sameResult, flag⟩
  dsimp only at known checked sameValid sameResult flag ⊢
  rw [← sameValid] at valid
  rw [← sameResult] at counted
  have vertices : ∀ endpoint ∈ endpoints source c,
      existsEvent graph endpoint ∈ reads ++ [⟨.contextErr, some false⟩] ++ more :=
    fun endpoint member => (known.known endpoint (checked endpoint member)).2
  have earlier : reads ⊆ reads ++ [⟨.contextErr, some false⟩] ++ more := by
    rw [List.append_assoc]
    exact List.subset_append_left _ _
  cases missing with
  | true =>
      have absent : (endpoints source c).all graph.vertexExists = false := by simpa using flag.symm
      refine Checked.miss known (fun c' member => ?_) valid counted ?_
      · rcases List.mem_append.mp member with old | last
        · exact (read c' old).mono earlier
        · rw [List.mem_singleton.mp last]
          exact ⟨vertices, fun all => by rw [absent] at all; cases all⟩
      · unfold Valid
        rw [absent, Bool.false_and]
  | false =>
      have present : (endpoints source c).all graph.vertexExists = true := by simpa using flag.symm
      have same : Valid graph source c = graph.endpointsValid c.identity.origin
          (torIdentity source c.tor) c.identity.target := by
        unfold Valid
        rw [present, Bool.true_and]
      refine ensures_endpointsValid (fun log => Prog.contract_raise trivial) ?_
      rw [List.append_assoc base]
      have asked := known.event (e := ownershipEvent graph source c) ⟨_, rfl, rfl⟩ rfl
      have readAll : ∀ c' ∈ done ++ [c], EndpointsRead graph source
          (reads ++ [⟨.contextErr, some false⟩] ++ more ++ [ownershipEvent graph source c]) c' := by
        intro c' member
        rcases List.mem_append.mp member with old | last
        · exact (read c' old).mono fun e inside => List.mem_append_left _ (earlier inside)
        · rw [List.mem_singleton.mp last]
          exact ⟨fun endpoint inside => List.mem_append_left _ (vertices endpoint inside),
            fun _ => List.mem_append_right _ (List.mem_singleton_self _)⟩
      cases owned : graph.endpointsValid c.identity.origin (torIdentity source c.tor)
          c.identity.target with
      | false => exact Checked.miss asked readAll valid counted (same.trans owned)
      | true => exact Checked.admit asked readAll valid counted (same.trans owned)

/-- All links of a pass. -/
theorem ensures_checks (result : ServerUplinkResult) (links : List ServerUplinkCandidate) :
    Prog.Ensures (uplinkWorld graph) (links.foldlM (checkCandidate source) ⟨result, .empty, [], []⟩)
      (Checked graph source base result links) base :=
  Prog.contract_foldlM (Checked graph source base result)
    (fun _ _ _ _ _ _ sofar => ensures_checkCandidate sofar) _
    ⟨⟨[], (List.append_nil base).symm,
      ⟨fun _ member => (List.not_mem_nil member).elim, rfl,
        fun _ member => (List.not_mem_nil member).elim⟩,
      fun _ member => (List.not_mem_nil member).elim⟩, rfl, by simp [missed]⟩

end Reads

/-! ## The writes -/

section Write

variable {graph : UplinkGraph} {source : Source} {snapshot : Time} {base : List UplinkEvent}

/-- The relations of `done` were written. -/
structure Wrote (snapshot : Time) (base : List UplinkEvent) (first : ServerUplinkResult)
    (done : List RelationIdentity) (result : ServerUplinkResult) (log : List UplinkEvent) :
    Prop where
  events : ∃ events, log = base ++ events ∧ (∀ e ∈ events, Succeeded e) ∧
    writes events = done.map (relationOf snapshot)
  result : result = { first with edges := first.edges + done.length }

/-- One relation. -/
theorem ensures_writeRelation {first result : ServerUplinkResult} {done : List RelationIdentity}
    {identity : RelationIdentity} {log : List UplinkEvent}
    (sofar : Wrote snapshot base first done result log) :
    Prog.Ensures (uplinkWorld graph) (writeRelation snapshot result identity)
      (Wrote snapshot base first (done ++ [identity])) log := by
  obtain ⟨⟨events, rfl, succeeded, written_⟩, rfl⟩ := sofar
  unfold writeRelation
  refine ensures_context ?_
  dsimp only
  cases normal : normalizeRelation (relationOf snapshot identity) with
  | error e => exact Prog.contract_raise trivial
  | ok normalized =>
      refine ensures_upsertRelation (fun log => Prog.contract_raise trivial) ?_
      refine ⟨⟨events ++ [⟨.contextErr, some false⟩,
        ⟨.upsertRelation (relationOf snapshot identity), some (some ())⟩], ?_, ?_, ?_⟩, ?_⟩
      · rw [List.append_assoc, List.append_assoc]
        rfl
      · intro e member
        rcases List.mem_append.mp member with earlier | last
        · exact succeeded e earlier
        · rcases List.mem_pair.mp last with rfl | rfl
          · exact ⟨_, rfl, rfl⟩
          · exact ⟨_, rfl, rfl⟩
      · rw [writes_append, written_, List.map_append]
        rfl
      · rw [List.length_append, List.length_singleton, Nat.cast_add, ← Int.add_assoc]
        rfl

/-- All relations. -/
theorem ensures_writes (first : ServerUplinkResult) (identities : List RelationIdentity) :
    Prog.Ensures (uplinkWorld graph) (identities.foldlM (writeRelation snapshot) first)
      (Wrote snapshot base first identities) base :=
  Prog.contract_foldlM (Wrote snapshot base first)
    (fun _ _ _ _ _ _ sofar => ensures_writeRelation sofar) first
    ⟨⟨[], (List.append_nil base).symm, fun _ member => (List.not_mem_nil member).elim, rfl⟩,
      by rw [List.length_nil, Nat.cast_zero, Int.add_zero]⟩

end Write

/-! ## Whole runs -/

section Run

variable {graph : UplinkGraph} {source : Source} {snapshot : Time} {pages : List UplinkPage}
  {pass : Pass} {reads events : List UplinkEvent}

/-- The log after a whole pass, the reads for its links and some writes. -/
theorem allRead_of (whole : WholePass true pages pass)
    (read : ∀ c ∈ distinctLinks pages, EndpointsRead graph source reads c)
    (readsOk : ∀ e ∈ reads, Succeeded e) (eventsOk : ∀ e ∈ events, Succeeded e) :
    AllRead graph source ([⟨.contextErr, some false⟩] ++ passEvents 0 pages ++ reads ++ events)
      pages pass where
  whole := whole
  first := ⟨reads ++ events, by rw [List.append_assoc]; rfl,
    fun c member => (read c member).mono (List.subset_append_left _ _)⟩
  succeeded := by
    intro e member
    rcases List.mem_append.mp member with earlier | last
    · rcases List.mem_append.mp earlier with earlier | middle
      · rcases List.mem_append.mp earlier with first | pass
        · rw [List.mem_singleton.mp first]
          exact ⟨_, rfl, rfl⟩
        · exact succeeded_passEvents e pass
      · exact readsOk e middle
    · exact eventsOk e last
  single := fun _ here _ there same => (passHolds whole.accepted).links.single here there same

/-- Only the last part of such a log has writes. -/
theorem writes_of (quiet : writes reads = []) :
    writes ([⟨.contextErr, some false⟩] ++ passEvents 0 pages ++ reads ++ events) =
      writes events := by
  rw [writes_append, writes_append, writes_append, writes_passEvents, quiet]
  rfl

/-- The counts of a run whose links were checked and whose valid ones were written. -/
theorem counts_of (graph : UplinkGraph) (source : Source) (pages : List UplinkPage) :
    ((distinctLinks pages).filter (Valid graph source)).length +
      (distinctLinks pages).countP (fun c => !Valid graph source c) =
      ((linksOf pages).map relationId).dedup.length := by
  have parts := List.length_eq_countP_add_countP (Valid graph source)
    (l := distinctLinks pages)
  rw [← List.countP_eq_length_filter, ← length_firsts]
  change _ = (distinctLinks pages).length
  rw [parts]
  simp only [Bool.not_eq_true, Bool.decide_eq_false]

/-- The second pass. -/
theorem ensures_verify {log : List UplinkEvent} {first : Collection} {result : ServerUplinkResult}
    (n : Nat) :
    Prog.Ensures (uplinkWorld graph) (verify n first result)
      (fun result' log' => result' = result ∧ ∃ again second,
        log' = log ++ passEvents 0 again ++ [⟨.contextErr, some false⟩] ∧
        WholePass false again second ∧ second.collection.digest = first.digest ∧
        second.collection.servers = first.servers ∧ second.collection.skipped = first.skipped)
      log := by
  unfold verify
  refine Prog.contract_bind (Prog.ensures_reify (ensures_collect n) ?_ fun e log =>
    Prog.contract_raise trivial)
  rintro collection log ⟨again, second, rfl, whole, rfl⟩
  dsimp only
  split
  · exact Prog.contract_raise trivial
  · rename_i same
    push Not at same
    refine ensures_context ?_
    exact ⟨rfl, again, second, rfl, whole, same.1, same.2.1, same.2.2⟩

/-- **The run that returns.** -/
theorem ensures_run (worker : ServerUplinkWorker) (n : Nat) :
    Prog.Ensures (uplinkWorld graph) (run worker source snapshot n)
      (fun result log => Finished graph source snapshot log result) [] := by
  unfold run
  refine ensures_context ?_
  split
  · exact Prog.contract_raise trivial
  · refine Prog.contract_bind (Prog.ensures_reify (ensures_collect n) ?_ fun e log =>
      Prog.contract_raise trivial)
    rintro collection log ⟨pages, pass, rfl, whole, rfl⟩
    dsimp only
    split
    · exact Prog.contract_raise trivial
    · refine Prog.contract_bind (Prog.contract_mono (ensures_checks _ _) ?_)
      rintro checks log ⟨⟨reads, rfl, memo, read⟩, valid, counted⟩
      refine Prog.contract_bind (Prog.contract_mono (ensures_writes _ _) ?_)
      rintro result log ⟨⟨events, rfl, succeeded, written_⟩, rfl⟩
      refine Prog.contract_mono (ensures_verify n) ?_
      rintro result log ⟨rfl, again, second, rfl, wholeAgain, digest, servers, skipped⟩
      have holds := passHolds whole.accepted
      have links : pass.collection.candidates = distinctLinks pages := holds.links.candidates rfl
      rw [links] at read valid counted
      have before : AllRead graph source _ pages pass :=
        allRead_of whole read memo.succeeded succeeded
      have all : writes ([⟨.contextErr, some false⟩] ++ passEvents 0 pages ++ reads ++ events ++
          passEvents 0 again ++ [⟨.contextErr, some false⟩]) =
          ((distinctLinks pages).filter (Valid graph source)).map
            (fun c => relationOf snapshot c.identity) := by
        rw [writes_append, writes_append, writes_of memo.quiet, writes_passEvents, written_, valid,
          List.append_nil, List.map_map]
        exact List.append_nil _
      have counts := counts_of graph source pages
      refine ⟨_, pages, pass, again, second, before, rfl, wholeAgain, digest, servers, skipped,
        ?_, all, ?_, ?_, ?_, ?_⟩
      · intro e member
        rcases List.mem_append.mp member with earlier | last
        · rcases List.mem_append.mp earlier with first | pass
          · exact before.succeeded e first
          · exact succeeded_passEvents e pass
        · rw [List.mem_singleton.mp last]
          exact ⟨_, rfl, rfl⟩
      · rw [List.nil_append, all, counted, valid, List.length_map, List.length_map]
        exact Int.zero_add _
      · rw [counted, valid, List.length_map, ← counts]
        simp [missed]
      · rw [counted]
        rfl
      · rw [counted, ← holds.skipped]
        simp [missed, Pass.collection]

/-! ## Every write -/

/-- What allows a call. -/
def Allowed (graph : UplinkGraph) (source : Source) (snapshot : Time) (c : UplinkCall)
    (log : List UplinkEvent) : Prop :=
  ∀ relation, c = .upsertRelation relation → MayWrite graph source snapshot log relation

/-- A call that writes nothing. -/
def Quiet : UplinkCall → Prop
  | .upsertRelation _ => False
  | _ => True

theorem only_collect (retain : Bool) (n : Nat) : (collect retain n).Only Quiet := by
  refine Prog.only_loop (fun pass => ?_) n _
  unfold collectNext
  refine Prog.only_bind (Prog.only_perform.mpr trivial) fun answer => ?_
  cases answer with
  | error e => trivial
  | ok page =>
      cases taken : acceptPage retain pass page with
      | error failure =>
          simp only [taken]
          trivial
      | ok pass' =>
          simp only [taken]
          refine Prog.only_bind (Prog.only_perform.mpr trivial) fun done => ?_
          split
          · trivial
          · split <;> trivial

theorem only_checkEndpoint (state : Checks × Bool) (endpoint : EntityIdentity) :
    (checkEndpoint state endpoint).Only Quiet := by
  unfold checkEndpoint
  dsimp only
  split
  · trivial
  · refine Prog.only_bind (Prog.only_perform.mpr trivial) fun answer => ?_
    cases answer <;> trivial

theorem only_checkCandidate (checks : Checks) (c : ServerUplinkCandidate) :
    (checkCandidate source checks c).Only Quiet := by
  unfold checkCandidate
  refine Prog.only_bind (Prog.only_perform.mpr trivial) fun done => ?_
  split
  · trivial
  · refine Prog.only_bind (Prog.only_foldlM only_checkEndpoint _ _) fun after => ?_
    dsimp only
    split
    · trivial
    · refine Prog.only_bind (Prog.only_perform.mpr trivial) fun answer => ?_
      rcases answer with _ | owned
      · trivial
      · cases owned <;> trivial

theorem only_verify (n : Nat) (first : Collection) (result : ServerUplinkResult) :
    (verify n first result).Only Quiet := by
  unfold verify
  refine Prog.only_bind (Prog.only_reify (only_collect false n)) fun second => ?_
  cases second with
  | error failure => trivial
  | ok second =>
      dsimp only
      split
      · trivial
      · refine Prog.only_bind (Prog.only_perform.mpr trivial) fun done => ?_
        split <;> trivial

/-- What writes nothing is allowed. -/
theorem issues_of_quiet {ε α : Type} {p : UplinkRun ε α} {log : List UplinkEvent}
    (quiet : p.Only Quiet) :
    p.Issues (uplinkWorld graph) (Allowed graph source snapshot) log :=
  Prog.issues_of_only quiet fun c _ silent relation same => by
    rw [same] at silent
    exact silent.elim

theorem issues_context {ε α : Type} {e : ε} {k : UplinkRun ε α} {log : List UplinkEvent}
    (next : k.Issues (uplinkWorld graph) (Allowed graph source snapshot)
      (log ++ [⟨.contextErr, some false⟩])) :
    ((Prog.perform .contextErr).bind fun done => if done = true then .raise e else k).Issues
      (uplinkWorld graph) (Allowed graph source snapshot) log := by
  refine issues_ask (fun relation same => by cases same) fun move => ?_
  unfold UplinkGraph.reply
  cases move.fails with
  | true => trivial
  | false => exact next

/-- The relations before one of the relations to be written have other IDs. -/
theorem fresh_of_split {links : List ServerUplinkCandidate}
    (identified : ∀ c ∈ links, c.identity.id = .ok (relationId c))
    (distinct : (links.map relationId).Nodup) {done rest : List RelationIdentity}
    {identity : RelationIdentity} (parts : links.map (·.identity) = done ++ identity :: rest) :
    ∀ earlier ∈ done, earlier.id ≠ identity.id := by
  obtain ⟨front, back, rfl, rfl, later⟩ := List.map_eq_append_iff.mp parts
  obtain ⟨c, back, rfl, rfl, -⟩ := List.map_eq_cons_iff.mp later
  intro earlier member same
  obtain ⟨b, inside, rfl⟩ := List.mem_map.mp member
  rw [identified b (List.mem_append_left _ inside),
    identified c (List.mem_append_right _ List.mem_cons_self)] at same
  rw [List.map_append, List.nodup_append] at distinct
  exact distinct.2.2 _ (List.mem_map_of_mem inside) _ (List.mem_map_of_mem List.mem_cons_self)
    (Except.ok.inj same)

/-- The writes of a run: each finds all reads done, and its relation valid and new. -/
theorem issues_writes (whole : WholePass true pages pass)
    (read : ∀ c ∈ distinctLinks pages, EndpointsRead graph source reads c)
    (readsOk : ∀ e ∈ reads, Succeeded e) (quiet : writes reads = []) {result : ServerUplinkResult} :
    ((((distinctLinks pages).filter (Valid graph source)).map (·.identity)).foldlM
      (writeRelation snapshot) result).Issues (uplinkWorld graph) (Allowed graph source snapshot)
      ([⟨.contextErr, some false⟩] ++ passEvents 0 pages ++ reads) := by
  have identified := (passHolds whole.accepted).links.identified
  refine Prog.issues_foldlM (Wrote snapshot _ result) ?_
    (fun _ _ _ _ _ _ sofar => ensures_writeRelation sofar) result
    ⟨⟨[], (List.append_nil _).symm, fun _ member => (List.not_mem_nil member).elim, rfl⟩,
      by rw [List.length_nil, Nat.cast_zero, Int.add_zero]⟩
  rintro done identity rest result log parts ⟨⟨events, rfl, succeeded, written_⟩, -⟩
  unfold writeRelation
  refine issues_context ?_
  dsimp only
  cases normal : normalizeRelation (relationOf snapshot identity) with
  | error e => trivial
  | ok normalized =>
      refine issues_ask ?_ fun move => ?_
      · intro relation same
        cases same
        have ok : ∀ e ∈ events ++ [⟨.contextErr, some false⟩], Succeeded e := by
          intro e member
          rcases List.mem_append.mp member with earlier | last
          · exact succeeded e earlier
          · rw [List.mem_singleton.mp last]
            exact ⟨_, rfl, rfl⟩
        have chosen : identity ∈
            ((distinctLinks pages).filter (Valid graph source)).map (·.identity) := by
          rw [parts]
          exact List.mem_append_right _ List.mem_cons_self
        obtain ⟨c, member, rfl⟩ := List.mem_map.mp chosen
        obtain ⟨member, valid⟩ := List.mem_filter.mp member
        rw [List.append_assoc _ events]
        refine ⟨pages, pass, allRead_of whole read readsOk ok, ⟨c, member, valid, rfl⟩, ?_⟩
        intro earlier before
        rw [writes_of quiet, writes_append, written_] at before
        obtain ⟨old, inside, rfl⟩ := List.mem_map.mp ((List.mem_append.mp before).resolve_right
          List.not_mem_nil)
        exact fresh_of_split
          (fun c' kept => identified c' (mem_of_mem_firsts (List.mem_of_mem_filter kept)))
          (nodup_keys_firsts.sublist (List.filter_sublist.map relationId)) parts old inside
      · unfold UplinkGraph.reply
        cases move.fails <;> trivial

/-- **Every write.** -/
theorem issues_run (worker : ServerUplinkWorker) (n : Nat) :
    (run worker source snapshot n).Issues (uplinkWorld graph) (Allowed graph source snapshot) [] := by
  unfold run
  refine issues_context ?_
  split
  · trivial
  · refine Prog.issues_bind (Prog.issues_reify (issues_of_quiet (only_collect true n)))
      (Prog.ensures_reify (ensures_collect n) ?_ fun e log => trivial)
    rintro collection log ⟨pages, pass, rfl, whole, rfl⟩
    dsimp only
    split
    · trivial
    · refine Prog.issues_bind (issues_of_quiet (Prog.only_foldlM only_checkCandidate _ _))
        (Prog.contract_mono (ensures_checks _ _) ?_)
      rintro checks log ⟨⟨reads, rfl, memo, read⟩, valid, counted⟩
      have links : pass.collection.candidates = distinctLinks pages :=
        (passHolds whole.accepted).links.candidates rfl
      rw [links] at read valid
      rw [valid]
      exact Prog.issues_bind_always (issues_writes whole read memo.succeeded memo.quiet)
        fun result log => issues_of_quiet (only_verify n _ _)

/-- Every write of a log was allowed where it was issued. -/
def WritesAllowed (graph : UplinkGraph) (source : Source) (snapshot : Time)
    (log : List UplinkEvent) : Prop :=
  ∀ before relation answer after, log = before ++ ⟨.upsertRelation relation, answer⟩ :: after →
    MayWrite graph source snapshot before relation

/-- One more call. -/
theorem WritesAllowed.call {log : List UplinkEvent} (held : WritesAllowed graph source snapshot log)
    {c : UplinkCall} {answer : Option c.Answer} (allowed : Allowed graph source snapshot c log) :
    WritesAllowed graph source snapshot (log ++ [⟨c, answer⟩]) := by
  intro before relation answer' after parts
  rcases List.eq_nil_or_concat after with rfl | ⟨init, last, rfl⟩
  · obtain ⟨rfl, same⟩ := List.append_inj' parts rfl
    obtain ⟨rfl, -⟩ := UplinkEvent.mk.inj (List.singleton_inj.mp same)
    exact allowed relation rfl
  · rw [List.concat_eq_append, ← List.cons_append, ← List.append_assoc] at parts
    obtain ⟨rfl, -⟩ := List.append_inj' parts rfl
    exact held before relation answer' init rfl

/-- No relation ID is written twice. -/
theorem WritesAllowed.nodup {log : List UplinkEvent}
    (held : WritesAllowed graph source snapshot log) :
    ((writes log).map (·.identity.id)).Nodup := by
  induction log using List.reverseRecOn with
  | nil => exact List.nodup_nil
  | append_singleton log e ih =>
      have earlier : WritesAllowed graph source snapshot log := fun before relation answer after parts =>
        held before relation answer (after ++ [e]) (by rw [parts, List.append_assoc]; rfl)
      obtain ⟨c, answer⟩ := e
      rw [writes_append]
      cases c with
      | upsertRelation relation =>
          obtain ⟨-, -, -, -, fresh⟩ := held log relation answer [] rfl
          change ((writes log ++ [relation]).map (·.identity.id)).Nodup
          rw [List.map_append, List.nodup_append]
          refine ⟨ih earlier, List.nodup_singleton _, ?_⟩
          intro id old id' new same
          obtain ⟨other, inside, rfl⟩ := List.mem_map.mp old
          exact fresh other inside (same.trans (List.mem_singleton.mp new))
      | _ =>
          change ((writes log ++ []).map fun r : Relation => r.identity.id).Nodup
          rw [List.append_nil]
          exact ih earlier

end Run

/-- **The writes of a run.**  Whatever the source answers and whichever calls fail: a relation is
written after a whole first pass and all reads for its links, every call so far having succeeded; it
is the relation of a valid link, and its ID was not written before.  A run that returns has written
exactly the valid links, its counts add up, and the second pass agreed with the first. -/
theorem run_writes (graph : UplinkGraph) (worker : ServerUplinkWorker) (source : Source)
    (snapshot : Time) (n : Nat) (script : List UplinkMove) :
    let ran := (run worker source snapshot n).run (uplinkWorld graph) script []
    (∀ before relation answer after, ran.2.1 = before ++ ⟨.upsertRelation relation, answer⟩ :: after →
      MayWrite graph source snapshot before relation) ∧
    ((writes ran.2.1).map (·.identity.id)).Nodup ∧
    ∀ result, ran.1 = .ok result → Finished graph source snapshot ran.2.1 result := by
  intro ran
  have allowed : WritesAllowed graph source snapshot ran.2.1 :=
    Prog.issues_run (K := WritesAllowed graph source snapshot)
      (fun c move log issued held => held.call issued) (issues_run worker n)
      (fun before relation answer after parts => by simp at parts) script
  exact ⟨allowed, allowed.nodup, (Prog.contract_run (Prog.shrinking_true _) (ensures_run worker n)
    script trivial).1⟩

end ServerUplink

end UnifiedInfraTopology
